import PolicySync.Memory.Offset
import PolicySync.Pass.Call

/-!
# The tuple store in memory

Every tenant has a store of its own, numbered by creation. A write call is recorded when it
arrives; it may be made to fail, and then, or when there is no such store, it changes nothing.
-/

namespace PolicySync.Memory

/-- A write call that arrived. -/
structure WriteCall where
  store : String
  batch : Batch
  deriving Inhabited

/-- Stores of tuples. -/
structure Store where
  /-- The store of each tenant. -/
  ids : SortedMap String String := SortedMap.empty
  /-- The tuples of each store. -/
  contents : SortedMap String TupleSet := SortedMap.empty
  /-- The write calls so far, first one first. -/
  calls : List WriteCall := []
  /-- The numbers of the write calls that fail, from one on. -/
  failing : List Nat := []
  /-- How long each write call takes before it has its effect. -/
  delays : SortedMap Nat Nat := SortedMap.empty
  deriving Inhabited

namespace Store

/-- The name of the store created as number `n`. -/
def storeName (n : Nat) : String :=
  let digits := Nat.toDigits 10 n
  String.ofList ("store-".toList ++ List.replicate (3 - digits.length) '0' ++ digits)

/-- The store of a tenant, created when there is none. -/
def getOrCreate (s : Store) (tenant : String) : String × Store :=
  match s.ids.get? tenant with
  | some id => (id, s)
  | none =>
    let id := storeName (s.ids.size + 1)
    (id, { s with
      ids := s.ids.insert tenant id
      contents := if s.contents.contains id then s.contents
        else s.contents.insert id SortedMap.empty })

/-- Put tuples into the store of a tenant without a write call. -/
def seed (s : Store) (tenant : String) (ts : List Tuple) : Store :=
  let (id, s) := s.getOrCreate tenant
  { s with contents := s.contents.alter id fun old =>
      TupleSet.insertTuples (old.getD SortedMap.empty) ts }

/-- The stored tuples of a tenant. -/
def tuplesOf (s : Store) (tenant : String) : TupleSet :=
  ((s.ids.get? tenant).bind s.contents.get?).getD SortedMap.empty

/-- One page of a store. -/
def read (s : Store) (id : String) (limit : Nat) (token : Option String) :
    Except StoreError (Page Tuple) :=
  match offset token with
  | .error detail => .error (.invalidResponse detail)
  | .ok n =>
    match s.contents.get? id with
    | none => .error (.notFound id)
    | some tuples => .ok (pageAt tuples.values n limit)

/-- A write call arrives; its number and how long it takes. -/
def arrive (s : Store) (id : String) (batch : Batch) : Nat × Nat × Store :=
  let number := s.calls.length + 1
  (number, (s.delays.get? number).getD 0, { s with calls := s.calls ++ [⟨id, batch⟩] })

/-- The write call of a number has its effect. -/
def finish (s : Store) (number : Nat) (id : String) (batch : Batch) :
    Except StoreError Unit × Store :=
  if s.failing.contains number then
    (.error (.rejected 500 s!"injected failure on write call {number}"), s)
  else
    match s.contents.get? id with
    | none => (.error (.notFound id), s)
    | some tuples => (.ok (), { s with contents := s.contents.insert id (batch.applyTo tuples) })

/-- A write call from its arrival to its effect. -/
def write (s : Store) (id : String) (batch : Batch) : Except StoreError Unit × Store :=
  let (number, _, s) := s.arrive id batch
  s.finish number id batch

/-- Make the write call of a number fail. -/
def failCall (s : Store) (number : Nat) : Store := { s with failing := number :: s.failing }

/-- Make the write call of a number take its time. -/
def delayCall (s : Store) (number milliseconds : Nat) : Store :=
  { s with delays := s.delays.insert number milliseconds }

end Store

end PolicySync.Memory
