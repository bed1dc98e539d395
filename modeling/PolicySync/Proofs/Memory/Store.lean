import PolicySync.Memory.Store
import PolicySync.Proofs.Tuple.Diff

/-!
# The stores of tenants

`Store.Reachable` is every state that its operations lead to from the empty one, in any order. All of
them are `WellFormed`: no two tenants share a store, every tenant's store is there, and tuples stand
under their own keys. In a well-formed state opening a store changes nobody's tuples
(`tuplesOf_getOrCreate`), and a write call either applies its batch to one tenant's tuples or changes
none (`write_cases`).
-/

namespace PolicySync.Memory.Store

/-! ## Names of stores -/

/-- Leading zeros do not change what digits spell. -/
private theorem ofDigitChars_replicate_zero (n : Nat) :
    Nat.ofDigitChars 10 (List.replicate n '0') 0 = 0 := by
  induction n with
  | zero => rfl
  | succ n ih =>
    rw [List.replicate_succ, Nat.ofDigitChars_cons]
    exact ih

/-- Different numbers give different names. -/
theorem storeName_injective {m n : Nat} (h : storeName m = storeName n) : m = n := by
  have hvalue : ∀ n, Nat.ofDigitChars 10
      (List.replicate (3 - (Nat.toDigits 10 n).length) '0' ++ Nat.toDigits 10 n) 0 = n := by
    intro n
    rw [Nat.ofDigitChars_append, ofDigitChars_replicate_zero, Nat.ofDigitChars_ten_toDigits]
  have hlists := String.ofList_injective h
  rw [List.append_assoc, List.append_assoc] at hlists
  rw [← hvalue m, List.append_cancel_left hlists, hvalue n]

/-! ## Well-formed states -/

/-- Tenants have stores of their own, and only tenants have stores. -/
structure WellFormed (s : Store) : Prop where
  /-- Stores are numbered by creation. -/
  numbered : ∀ {tenant id}, s.ids.get? tenant = some id → ∃ n < s.ids.size, id = storeName (n + 1)
  /-- No two tenants share a store. -/
  apart : ∀ {tenant tenant' id}, s.ids.get? tenant = some id → s.ids.get? tenant' = some id →
    tenant = tenant'
  /-- The store of a tenant is there. -/
  present : ∀ {tenant id}, s.ids.get? tenant = some id → s.contents.contains id = true
  /-- A store that is there is the store of a tenant. -/
  owned : ∀ {id}, s.contents.contains id = true → ∃ tenant, s.ids.get? tenant = some id
  /-- Tuples stand under their own keys. -/
  keyed : ∀ {id tuples}, s.contents.get? id = some tuples → TupleSet.Keyed tuples

variable {s : Store} {tenant id : String}

/-- The tuples of a tenant are those of its store. -/
theorem tuplesOf_of_get? (hid : s.ids.get? tenant = some id) :
    s.tuplesOf tenant = (s.contents.get? id).getD SortedMap.empty := by
  rw [tuplesOf, hid, Option.bind_some]

/-- A tenant without a store has no tuples. -/
theorem tuplesOf_of_not_contains (h : s.ids.get? tenant = none) :
    s.tuplesOf tenant = SortedMap.empty := by
  rw [tuplesOf, h]
  rfl

namespace WellFormed

/-- The contents of a store that was handed out are the tenant's tuples. -/
theorem get?_contents (h : s.WellFormed) (hid : s.ids.get? tenant = some id) :
    s.contents.get? id = some (s.tuplesOf tenant) := by
  obtain ⟨tuples, htuples⟩ := SortedMap.contains_iff.1 (h.present hid)
  rw [tuplesOf_of_get? hid, htuples, Option.getD_some]

/-- The tuples of a tenant are filed under their own keys. -/
theorem keyed_tuplesOf (h : s.WellFormed) (tenant : String) : (s.tuplesOf tenant).Keyed := by
  cases hid : s.ids.get? tenant with
  | none =>
    rw [tuplesOf_of_not_contains hid]
    exact TupleSet.keyed_empty
  | some id => exact h.keyed (h.get?_contents hid)

end WellFormed

/-! ## Opening a store -/

/-- The name of the store that is made next. -/
def nextName (s : Store) : String := storeName (s.ids.size + 1)

/-- The state with an empty store made for a tenant. -/
def create (s : Store) (tenant : String) : Store :=
  { s with
    ids := s.ids.insert tenant s.nextName
    contents := s.contents.insert s.nextName SortedMap.empty }

/-- A new store belongs to its tenant, and nobody else's changes. -/
theorem get?_ids_create (s : Store) (tenant other : String) :
    (s.create tenant).ids.get? other =
      if other = tenant then some s.nextName else s.ids.get? other :=
  SortedMap.get?_insert _ _ _ _

/-- It is empty, and all others keep their contents. -/
theorem get?_contents_create (s : Store) (tenant id : String) :
    (s.create tenant).contents.get? id =
      if id = s.nextName then some SortedMap.empty else s.contents.get? id :=
  SortedMap.get?_insert _ _ _ _

/-- It is the only store that is added. -/
theorem contains_contents_create : (s.create tenant).contents.contains id = true ↔
    id = s.nextName ∨ s.contents.contains id = true :=
  SortedMap.contains_insert

/-- The next name is not taken. -/
theorem WellFormed.not_contains_nextName (h : s.WellFormed) :
    ¬ s.contents.contains s.nextName = true := by
  intro hc
  obtain ⟨tenant, hid⟩ := h.owned hc
  obtain ⟨n, hn, hname⟩ := h.numbered hid
  have hsame := storeName_injective hname
  omega

/-- The name of the next store is not taken. -/
theorem WellFormed.ne_nextName (h : s.WellFormed) (hid : s.ids.get? tenant = some id) :
    id ≠ s.nextName := by
  rintro rfl
  exact h.not_contains_nextName (h.present hid)

/-- A new store keeps every tenant to its own. -/
theorem WellFormed.create (h : s.WellFormed) (hnone : s.ids.get? tenant = none) :
    (s.create tenant).WellFormed := by
  -- One more tenant has a store, so the next name is a new one.
  have hsize : (s.create tenant).ids.size = s.ids.size + 1 :=
    SortedMap.size_insert_of_not_contains (SortedMap.get?_eq_none_iff.1 hnone)
  constructor
  · intro t id hid
    rw [get?_ids_create] at hid
    rw [hsize]
    split at hid
    · exact ⟨s.ids.size, Nat.lt_succ_self _, (Option.some.inj hid).symm⟩
    · obtain ⟨n, hn, hname⟩ := h.numbered hid
      exact ⟨n, Nat.lt_succ_of_lt hn, hname⟩
  · -- The new name was not taken, so only the new tenant has it.
    intro t t' id hid hid'
    rw [get?_ids_create] at hid hid'
    split at hid <;> split at hid'
    · next ht ht' => exact ht.trans ht'.symm
    · exact absurd (Option.some.inj hid).symm (h.ne_nextName hid')
    · exact absurd (Option.some.inj hid').symm (h.ne_nextName hid)
    · exact h.apart hid hid'
  · intro t id hid
    rw [get?_ids_create] at hid
    rw [contains_contents_create]
    split at hid
    · exact .inl (Option.some.inj hid).symm
    · exact .inr (h.present hid)
  · intro id hc
    rcases contains_contents_create.1 hc with rfl | hc
    · exact ⟨tenant, by rw [get?_ids_create, if_pos rfl]⟩
    · obtain ⟨t, hid⟩ := h.owned hc
      have hne : t ≠ tenant := by
        rintro rfl
        rw [hnone] at hid
        cases hid
      exact ⟨t, by rw [get?_ids_create, if_neg hne, hid]⟩
  · intro id tuples hget
    rw [get?_contents_create] at hget
    split at hget
    · cases hget
      exact TupleSet.keyed_empty
    · exact h.keyed hget

/-- A new store changes nobody's tuples. -/
theorem tuplesOf_create (h : s.WellFormed) (hnone : s.ids.get? tenant = none) (other : String) :
    (s.create tenant).tuplesOf other = s.tuplesOf other := by
  have hids := get?_ids_create s tenant other
  by_cases hother : other = tenant
  · rw [if_pos hother] at hids
    rw [tuplesOf_of_get? hids, get?_contents_create, if_pos rfl, hother,
      tuplesOf_of_not_contains hnone, Option.getD_some]
  · rw [if_neg hother] at hids
    cases hid : s.ids.get? other with
    | none => rw [tuplesOf_of_not_contains (hids.trans hid), tuplesOf_of_not_contains hid]
    | some id =>
      rw [tuplesOf_of_get? (hids.trans hid), tuplesOf_of_get? hid, get?_contents_create,
        if_neg (h.ne_nextName hid)]

/-- Opening the store of a tenant finds it. -/
theorem getOrCreate_of_get? (hid : s.ids.get? tenant = some id) :
    s.getOrCreate tenant = (id, s) := by
  rw [getOrCreate, hid]

/-- Opening the store of a tenant that has none makes one. -/
theorem getOrCreate_of_none (h : s.WellFormed) (hnone : s.ids.get? tenant = none) :
    s.getOrCreate tenant = (s.nextName, s.create tenant) := by
  have hfree : ¬ s.contents.contains (storeName (s.ids.size + 1)) = true :=
    h.not_contains_nextName
  rw [getOrCreate, hnone]
  simp only [if_neg hfree]
  rfl

/-- The opened store is the tenant's, and opening it changes nobody's tuples. -/
theorem getOrCreate_spec (h : s.WellFormed) (tenant : String) :
    (s.getOrCreate tenant).2.WellFormed ∧
      (s.getOrCreate tenant).2.ids.get? tenant = some (s.getOrCreate tenant).1 ∧
      ∀ other, (s.getOrCreate tenant).2.tuplesOf other = s.tuplesOf other := by
  cases hid : s.ids.get? tenant with
  | some id =>
    rw [getOrCreate_of_get? hid]
    exact ⟨h, hid, fun _ => rfl⟩
  | none =>
    rw [getOrCreate_of_none h hid]
    exact ⟨h.create hid, by rw [get?_ids_create, if_pos rfl], tuplesOf_create h hid⟩

/-- Opening a store moves no other. -/
theorem get?_ids_getOrCreate (h : s.WellFormed) (hid : s.ids.get? tenant = some id)
    (other : String) : (s.getOrCreate other).2.ids.get? tenant = some id := by
  cases hother : s.ids.get? other with
  | some id' =>
    rw [getOrCreate_of_get? hother]
    exact hid
  | none =>
    have hne : tenant ≠ other := by
      rintro rfl
      rw [hother] at hid
      cases hid
    rw [getOrCreate_of_none h hother, get?_ids_create, if_neg hne]
    exact hid

/-- Opening a store makes no write call and lets none fail. -/
theorem getOrCreate_keeps (s : Store) (tenant : String) :
    (s.getOrCreate tenant).2.calls = s.calls ∧ (s.getOrCreate tenant).2.failing = s.failing := by
  unfold getOrCreate
  split <;> exact ⟨rfl, rfl⟩

/-! ## Changing the tuples of a tenant -/

/-- The state with other tuples in a store. -/
def setTuples (s : Store) (id : String) (tuples : TupleSet) : Store :=
  { s with contents := s.contents.insert id tuples }

/-- Writing to a store that exists keeps the stores in order. -/
theorem WellFormed.setTuples (h : s.WellFormed) (hc : s.contents.contains id = true)
    {tuples : TupleSet} (hkeyed : tuples.Keyed) : (s.setTuples id tuples).WellFormed := by
  refine ⟨h.numbered, h.apart, ?_, ?_, ?_⟩
  · intro tenant id' hid
    exact SortedMap.contains_insert.2 (.inr (h.present hid))
  · intro id' hc'
    rcases SortedMap.contains_insert.1 hc' with rfl | hc'
    · exact h.owned hc
    · exact h.owned hc'
  · intro id' tuples' hget
    rw [Store.setTuples, SortedMap.get?_insert] at hget
    split at hget
    · cases hget
      exact hkeyed
    · exact h.keyed hget

/-- Only the tenant of the store that is written sees other tuples. -/
theorem tuplesOf_setTuples (h : s.WellFormed) (hid : s.ids.get? tenant = some id)
    (tuples : TupleSet) (other : String) :
    (s.setTuples id tuples).tuplesOf other =
      if other = tenant then tuples else s.tuplesOf other := by
  have hids : (s.setTuples id tuples).ids = s.ids := rfl
  have hcontents : (s.setTuples id tuples).contents = s.contents.insert id tuples := rfl
  by_cases hother : other = tenant
  · subst hother
    rw [if_pos rfl, tuplesOf_of_get? (hids ▸ hid), hcontents, SortedMap.get?_insert_self,
      Option.getD_some]
  · rw [if_neg hother]
    cases hid' : s.ids.get? other with
    | none => rw [tuplesOf_of_not_contains (hids ▸ hid'), tuplesOf_of_not_contains hid']
    | some id' =>
      have hne : id' ≠ id := by
        rintro rfl
        exact hother (h.apart hid' hid)
      rw [tuplesOf_of_get? (hids ▸ hid'), tuplesOf_of_get? hid', hcontents,
        SortedMap.get?_insert_of_ne _ _ hne]

/-! ## Write calls -/

/-- The arrival of a call is only counted. -/
theorem WellFormed.arrive (h : s.WellFormed) (id : String) (batch : Batch) :
    (s.arrive id batch).2.2.WellFormed :=
  ⟨h.numbered, h.apart, h.present, h.owned, h.keyed⟩

/-- It changes nobody's tuples. -/
theorem tuplesOf_arrive (s : Store) (id : String) (batch : Batch) (tenant : String) :
    (s.arrive id batch).2.2.tuplesOf tenant = s.tuplesOf tenant :=
  rfl

/-- A write call fails without an effect, or applies its batch to a store. -/
theorem finish_cases (s : Store) (number : Nat) (id : String) (batch : Batch) :
    (∃ e, s.finish number id batch = (.error e, s)) ∨
      ∃ tuples, s.contents.get? id = some tuples ∧
        s.finish number id batch = (.ok (), s.setTuples id (batch.applyTo tuples)) := by
  unfold finish
  split
  · exact .inl ⟨_, rfl⟩
  · split
    · exact .inl ⟨_, rfl⟩
    · next tuples htuples => exact .inr ⟨tuples, htuples, rfl⟩

/-- Whether or not a write succeeds, the stores stay in order. -/
theorem WellFormed.finish (h : s.WellFormed) (number : Nat) (id : String) (batch : Batch) :
    (s.finish number id batch).2.WellFormed := by
  rcases finish_cases s number id batch with ⟨e, heq⟩ | ⟨tuples, htuples, heq⟩
  · rw [heq]
    exact h
  · rw [heq]
    exact h.setTuples (SortedMap.contains_of_get? htuples)
      (Batch.keyed_applyTo (h.keyed htuples) batch)

/-- A write call is put on record. It fails if its number is to fail or there is no such store, and
otherwise its batch is applied to the store. -/
theorem write_eq (s : Store) (id : String) (batch : Batch) : s.write id batch =
    if s.calls.length + 1 ∈ s.failing then
      (.error (.rejected 500 s!"injected failure on write call {s.calls.length + 1}"),
        (s.arrive id batch).2.2)
    else match s.contents.get? id with
      | none => (.error (.notFound id), (s.arrive id batch).2.2)
      | some tuples => (.ok (), (s.arrive id batch).2.2.setTuples id (batch.applyTo tuples)) := by
  simp only [write, arrive, finish, List.contains_iff_mem]
  rfl

/-- A write call changes the record and the tuples of stores, but nothing else. -/
theorem write_keeps (s : Store) (id : String) (batch : Batch) :
    (s.write id batch).2.ids = s.ids ∧ (s.write id batch).2.calls = s.calls ++ [⟨id, batch⟩] ∧
      (s.write id batch).2.failing = s.failing := by
  rw [write_eq]
  split
  · exact ⟨rfl, rfl, rfl⟩
  · split <;> exact ⟨rfl, rfl, rfl⟩

/-- A write call to the store of a tenant fails and changes nobody's tuples, or succeeds and applies
its batch to the tuples of that tenant alone. -/
theorem write_cases (h : s.WellFormed) (hid : s.ids.get? tenant = some id) (batch : Batch) :
    (s.write id batch).2.WellFormed ∧ (s.write id batch).2.ids = s.ids ∧
      ((∃ e, (s.write id batch).1 = .error e) ∧
          (∀ other, (s.write id batch).2.tuplesOf other = s.tuplesOf other) ∨
        (s.write id batch).1 = .ok () ∧
          (s.write id batch).2.tuplesOf tenant = batch.applyTo (s.tuplesOf tenant) ∧
          ∀ other, other ≠ tenant → (s.write id batch).2.tuplesOf other = s.tuplesOf other) := by
  have harrived : (s.arrive id batch).2.2.WellFormed := h.arrive id batch
  have hwrite : s.write id batch = (s.arrive id batch).2.2.finish (s.arrive id batch).1 id batch :=
    rfl
  refine ⟨harrived.finish _ id batch, ?_⟩
  rw [hwrite]
  rcases finish_cases (s.arrive id batch).2.2 (s.arrive id batch).1 id batch with
    ⟨e, heq⟩ | ⟨tuples, htuples, heq⟩
  · rw [heq]
    exact ⟨rfl, .inl ⟨⟨e, rfl⟩, fun _ => rfl⟩⟩
  · rw [heq]
    have hold : tuples = s.tuplesOf tenant :=
      Option.some.inj (htuples.symm.trans (h.get?_contents hid))
    refine ⟨rfl, .inr ⟨rfl, ?_, fun other hother => ?_⟩⟩
    · rw [tuplesOf_setTuples harrived hid, if_pos rfl, hold]
    · rw [tuplesOf_setTuples harrived hid, if_neg hother, tuplesOf_arrive]

/-! ## Reachable states -/

/-- The states that the operations of a store lead to. -/
inductive Reachable : Store → Prop where
  | empty : Reachable {}
  | getOrCreate {s : Store} (h : Reachable s) (tenant : String) :
      Reachable (s.getOrCreate tenant).2
  | seed {s : Store} (h : Reachable s) (tenant : String) (ts : List Tuple) :
      Reachable (s.seed tenant ts)
  | arrive {s : Store} (h : Reachable s) (id : String) (batch : Batch) :
      Reachable (s.arrive id batch).2.2
  | finish {s : Store} (h : Reachable s) (number : Nat) (id : String) (batch : Batch) :
      Reachable (s.finish number id batch).2
  | failCall {s : Store} (h : Reachable s) (number : Nat) : Reachable (s.failCall number)
  | delayCall {s : Store} (h : Reachable s) (number milliseconds : Nat) :
      Reachable (s.delayCall number milliseconds)

/-- A backend without stores is in order. -/
theorem wellFormed_empty : WellFormed {} := by
  refine ⟨?_, ?_, ?_, ?_, ?_⟩
  · intro tenant id hid
    cases hid
  · intro tenant tenant' id hid
    cases hid
  · intro tenant id hid
    cases hid
  · intro id hc
    cases hc
  · intro id tuples hget
    cases hget

/-- Seeding a tenant keeps the stores in order. -/
theorem WellFormed.seed (h : s.WellFormed) (tenant : String) (ts : List Tuple) :
    (s.seed tenant ts).WellFormed := by
  obtain ⟨hopened, hid, -⟩ := getOrCreate_spec h tenant
  have hkeyed : TupleSet.Keyed
      (((s.getOrCreate tenant).2.contents.get? (s.getOrCreate tenant).1).getD SortedMap.empty) := by
    rw [hopened.get?_contents hid, Option.getD_some]
    exact hopened.keyed_tuplesOf tenant
  exact hopened.setTuples (hopened.present hid) (hkeyed.insertTuples ts)

/-- Every reachable state is well formed. -/
theorem Reachable.wellFormed (h : s.Reachable) : s.WellFormed := by
  induction h with
  | empty => exact wellFormed_empty
  | getOrCreate _ tenant ih => exact (getOrCreate_spec ih tenant).1
  | seed _ tenant ts ih => exact ih.seed tenant ts
  | arrive _ id batch ih => exact ih.arrive id batch
  | finish _ number id batch ih => exact ih.finish number id batch
  | failCall _ number ih => exact ⟨ih.numbered, ih.apart, ih.present, ih.owned, ih.keyed⟩
  | delayCall _ number ms ih => exact ⟨ih.numbered, ih.apart, ih.present, ih.owned, ih.keyed⟩

end PolicySync.Memory.Store
