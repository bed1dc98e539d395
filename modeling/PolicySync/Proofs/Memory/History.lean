import PolicySync.Proofs.Memory.Paging
import PolicySync.Proofs.Memory.Store

/-!
# Histories of a store

`Store.after` is the state of a store after a history of operations, some of which let write calls
fail that are still to come. Every operation leads from a reachable state to another, leaves tenants
their stores, and adds to the record just the write call that it makes. By induction on the history a
store is `Reliable` (`reliable_after`): whatever has been done, a tenant has one store of its own, and
the write calls that fail are those whose numbers in the whole history are marked.
-/

namespace PolicySync.Memory.Store

/-- What can be done with a store. -/
inductive Operation where
  | getOrCreate (tenant : String)
  | seed (tenant : String) (ts : List Tuple)
  | read (id : String) (limit : Nat) (token : Option String)
  | write (id : String) (batch : Batch)
  /-- Make the write call of a number fail. -/
  | fail (number : Nat)
  /-- Make the write call of a number take its time. -/
  | delay (number milliseconds : Nat)

/-- The write call that an operation makes. -/
def Operation.call? : Operation → Option WriteCall
  | write id batch => some ⟨id, batch⟩
  | _ => none

/-- The state after an operation. -/
def perform (s : Store) : Operation → Store
  | .getOrCreate tenant => (s.getOrCreate tenant).2
  | .seed tenant ts => s.seed tenant ts
  | .read _ _ _ => s
  | .write id batch => (s.write id batch).2
  | .fail number => s.failCall number
  | .delay number milliseconds => s.delayCall number milliseconds

/-- The state after a history of operations. -/
def after (ops : List Operation) : Store := ops.foldl perform {}

/-- The number of the write call that comes next. -/
def nextCall (ops : List Operation) : Nat := (ops.filterMap Operation.call?).length + 1

variable {s : Store} {ops : List Operation} {tenant id : String}

/-! ## One operation -/

/-- One more operation leads to a reachable store. -/
theorem Reachable.perform (h : s.Reachable) (op : Operation) : (s.perform op).Reachable := by
  cases op with
  | getOrCreate tenant => exact h.getOrCreate tenant
  | seed tenant ts => exact h.seed tenant ts
  | read id limit token => exact h
  | write id batch => exact (h.arrive id batch).finish _ id batch
  | fail number => exact h.failCall number
  | delay number milliseconds => exact h.delayCall number milliseconds

/-- An operation leaves a tenant its store. -/
theorem get?_ids_perform (h : s.WellFormed) (hid : s.ids.get? tenant = some id) (op : Operation) :
    (s.perform op).ids.get? tenant = some id := by
  cases op with
  | getOrCreate other => exact get?_ids_getOrCreate h hid other
  | seed other ts => exact get?_ids_getOrCreate h hid other
  | read id limit token => exact hid
  | write id batch =>
    rw [perform, (write_keeps s id batch).1]
    exact hid
  | fail number => exact hid
  | delay number milliseconds => exact hid

/-- An operation puts the write call that it makes on record. -/
theorem calls_perform (s : Store) (op : Operation) :
    (s.perform op).calls = s.calls ++ op.call?.toList := by
  cases op with
  | getOrCreate tenant => simp [perform, Operation.call?, (getOrCreate_keeps s tenant).1]
  | seed tenant ts => simp [perform, Operation.call?, seed, (getOrCreate_keeps s tenant).1]
  | read id limit token => simp [perform, Operation.call?]
  | write id batch => exact (write_keeps s id batch).2.1
  | fail number => simp [perform, Operation.call?, failCall]
  | delay number milliseconds => simp [perform, Operation.call?, delayCall]

/-- The write calls that are to fail are those that an operation says. -/
theorem mem_failing_perform {op : Operation} {number : Nat} :
    number ∈ (s.perform op).failing ↔ number ∈ s.failing ∨ op = .fail number := by
  cases op with
  | getOrCreate tenant => simp [perform, (getOrCreate_keeps s tenant).2]
  | seed tenant ts => simp [perform, seed, (getOrCreate_keeps s tenant).2]
  | read id limit token => simp [perform]
  | write id batch => simp [perform, (write_keeps s id batch).2.2]
  | fail number' => simp [perform, failCall, or_comm, eq_comm]
  | delay number' milliseconds => simp [perform, delayCall]

/-! ## A history -/

/-- Operations come one after the other. -/
theorem after_append (ops more : List Operation) :
    after (ops ++ more) = more.foldl perform (after ops) :=
  List.foldl_append

/-- Any operations lead from a reachable store to one. -/
theorem reachable_foldl (h : s.Reachable) (ops : List Operation) :
    (ops.foldl perform s).Reachable := by
  induction ops generalizing s with
  | nil => exact h
  | cons op ops ih => exact ih (h.perform op)

/-- So the store after any history is reachable. -/
theorem reachable_after (ops : List Operation) : (after ops).Reachable :=
  reachable_foldl .empty ops

/-- A history leaves a tenant its store. -/
theorem get?_ids_foldl (h : s.Reachable) (hid : s.ids.get? tenant = some id)
    (ops : List Operation) : (ops.foldl perform s).ids.get? tenant = some id := by
  induction ops generalizing s with
  | nil => exact hid
  | cons op ops ih => exact ih (h.perform op) (get?_ids_perform h.wellFormed hid op)

/-- Every write call is recorded, and nothing else is. -/
theorem calls_foldl (s : Store) (ops : List Operation) :
    (ops.foldl perform s).calls = s.calls ++ ops.filterMap Operation.call? := by
  induction ops generalizing s with
  | nil => exact (List.append_nil _).symm
  | cons op ops ih =>
    rw [List.foldl_cons, ih, calls_perform, List.append_assoc]
    cases hcall : op.call? <;> simp [hcall]

/-- A call is due to fail when it was said to. -/
theorem mem_failing_foldl {number : Nat} : number ∈ (ops.foldl perform s).failing ↔
    number ∈ s.failing ∨ .fail number ∈ ops := by
  induction ops generalizing s with
  | nil => simp
  | cons op ops ih =>
    rw [List.foldl_cons, ih, mem_failing_perform, List.mem_cons, or_assoc, @eq_comm _ op]

/-- The write calls of a history are on record. -/
theorem calls_after (ops : List Operation) : (after ops).calls = ops.filterMap Operation.call? :=
  calls_foldl {} ops

/-- The write calls that are to fail are those that a history says. -/
theorem mem_failing_after {number : Nat} :
    number ∈ (after ops).failing ↔ .fail number ∈ ops := by
  rw [after, mem_failing_foldl]
  simp

/-! ## What a history leaves in place -/

/-- What a store keeps to after a history. -/
structure Reliable (ops : List Operation) : Prop where
  /-- A tenant that asks for its store has it from then on. -/
  given : ∀ tenant, (after (ops ++ [.getOrCreate tenant])).ids.get? tenant =
    some ((after ops).getOrCreate tenant).1
  /-- A tenant keeps its store, whatever comes. -/
  lasting : ∀ {tenant id}, (after ops).ids.get? tenant = some id →
    ∀ more, (after (ops ++ more)).ids.get? tenant = some id
  /-- No two tenants share a store. -/
  apart : ∀ {tenant tenant' id}, (after ops).ids.get? tenant = some id →
    (after ops).ids.get? tenant' = some id → tenant = tenant'
  /-- The store of a tenant can be read. -/
  readable : ∀ {tenant id}, (after ops).ids.get? tenant = some id →
    ∃ tuples, (after ops).contents.get? id = some tuples ∧ ∀ {token n}, offset token = .ok n →
      ∀ limit, (after ops).read id limit token = .ok (pageAt tuples.values n limit)
  /-- There are no other stores than those of tenants. -/
  owned : ∀ {id tuples}, (after ops).contents.get? id = some tuples →
    ∃ tenant, (after ops).ids.get? tenant = some id
  /-- Every tuple stands under its own key. -/
  keyed : ∀ {id tuples}, (after ops).contents.get? id = some tuples → tuples.Keyed
  /-- All write calls are on record, those that failed as well. -/
  recorded : (after ops).calls = ops.filterMap Operation.call?
  /-- A write call fails when its number among all of them is to fail, and changes no tuple. -/
  rejected : ∀ {id batch}, .fail (nextCall ops) ∈ ops →
    ((after ops).write id batch).1 =
        .error (.rejected 500 s!"injected failure on write call {nextCall ops}") ∧
      ((after ops).write id batch).2.contents = (after ops).contents
  /-- A write call fails when there is no such store, and changes no tuple. -/
  missing : ∀ {id batch}, .fail (nextCall ops) ∉ ops → (after ops).contents.get? id = none →
    ((after ops).write id batch).1 = .error (.notFound id) ∧
      ((after ops).write id batch).2.contents = (after ops).contents
  /-- Any other write call succeeds and changes no other store. In this one a key has the last tuple
  written for it, or else is gone if it was deleted. -/
  written : ∀ {id batch tuples}, .fail (nextCall ops) ∉ ops →
    (after ops).contents.get? id = some tuples → ((after ops).write id batch).1 = .ok () ∧
      ∃ tuples', (∀ other, ((after ops).write id batch).2.contents.get? other =
          if other = id then some tuples' else (after ops).contents.get? other) ∧
        ∀ k, tuples'.get? k = ((batch.writes.filter fun t => t.key = k).getLast?).or
          (if k ∈ batch.deletes then none else tuples.get? k)

/-- The next write call is to fail if the history says so of its number. -/
theorem nextCall_mem_failing : (after ops).calls.length + 1 ∈ (after ops).failing ↔
    .fail (nextCall ops) ∈ ops := by
  rw [calls_after, ← nextCall, mem_failing_after]

/-- A store is reliable after any history. -/
theorem reliable_after (ops : List Operation) : Reliable ops where
  given tenant := by
    rw [after_append]
    exact (getOrCreate_spec (reachable_after ops).wellFormed tenant).2.1
  lasting hid more := by
    rw [after_append]
    exact get?_ids_foldl (reachable_after ops) hid more
  apart := (reachable_after ops).wellFormed.apart
  readable {tenant id} hid := by
    refine ⟨_, (reachable_after ops).wellFormed.get?_contents hid, fun {token n} hn limit => ?_⟩
    rw [read, hn, (reachable_after ops).wellFormed.get?_contents hid]
  owned htuples := (reachable_after ops).wellFormed.owned (SortedMap.contains_of_get? htuples)
  keyed := (reachable_after ops).wellFormed.keyed
  recorded := calls_after ops
  rejected hfail := by
    rw [write_eq, if_pos (nextCall_mem_failing.2 hfail), calls_after, ← nextCall]
    exact ⟨rfl, rfl⟩
  missing hkept hnone := by
    rw [write_eq, if_neg (mt nextCall_mem_failing.1 hkept), hnone]
    exact ⟨rfl, rfl⟩
  written {id batch tuples} hkept htuples := by
    rw [write_eq, if_neg (mt nextCall_mem_failing.1 hkept), htuples]
    exact ⟨rfl, batch.applyTo tuples, fun other => SortedMap.get?_insert _ _ _ _,
      Batch.get?_applyTo tuples batch⟩

/-- Two tenants have stores, and the second write call is to fail. Ann may view a board by day. -/
def outage : List Operation :=
  [.fail 2, .seed "acme" [{ Tuple.relate "user:ann" "viewer" "board:1" with
    condition := some { name := "by_day" } }], .getOrCreate "globex"]

/-- Ann may view it at any time. -/
def lifted : Batch where
  writes := [.relate "user:ann" "viewer" "board:1"]
  deletes := [⟨"user:ann", "viewer", "board:1"⟩]

/-- The second call fails as it was told to, and calls for stores that exist succeed before and
after it. -/
theorem reliable_after_outage :
    (((after outage).write "store-001" lifted).1 = .ok () ∧
      ∃ tuples, ((after outage).write "store-001" lifted).2.contents.get? "store-001" = some tuples ∧
        tuples.get? ⟨"user:ann", "viewer", "board:1"⟩ =
          some (.relate "user:ann" "viewer" "board:1")) ∧
    ((after (outage ++ [.write "store-001" lifted])).write "store-002" lifted).1 =
      .error (.rejected 500 "injected failure on write call 2") ∧
    ((after (outage ++ [.write "store-001" lifted, .write "store-002" lifted])).write "store-003"
      lifted).1 = .error (.notFound "store-003") := by
  have hfirst : Operation.fail 1 ∉ outage := by simp [outage]
  have hsecond : Operation.fail 2 ∈ outage ++ [.write "store-001" lifted] := List.mem_cons_self
  have hthird : Operation.fail 3 ∉
      outage ++ [.write "store-001" lifted, .write "store-002" lifted] := by simp [outage]
  refine ⟨?_, ?_, ?_⟩
  · have hid : (after outage).ids.get? "acme" = some "store-001" := rfl
    obtain ⟨tuples, htuples, -⟩ := (reliable_after outage).readable hid
    obtain ⟨hok, tuples', hothers, hkeys⟩ := (reliable_after outage).written hfirst htuples
    exact ⟨hok, tuples', hothers _, hkeys _⟩
  · exact ((reliable_after _).rejected hsecond).1
  · exact ((reliable_after _).missing hthird rfl).1

end PolicySync.Memory.Store
