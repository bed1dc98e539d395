import PolicySync.Page
import PolicySync.Pass.Error
import PolicySync.Script
import PolicySync.Tuple.Batch

/-!
# The calls of a pass

A pass is a script whose questions are calls: pages of resources and tenants from the lister,
pages of tuples and writes from the store, and the publication of a snapshot. Every call has a time
limit, and it is not started any more once the pass is cancelled. A call that only reads is also
given up at the moment of cancellation, while a write that has started runs to its end or limit.
-/

namespace PolicySync

/-- A call to the lister or to the store. -/
inductive Call where
  | list (kind : ResourceKind) (tenant : Option String) (limit : Nat) (token : Option String)
  | tenants
  | openStore (tenant : String)
  | read (store : String) (limit : Nat) (token : Option String)
  | write (store : String) (batch : Batch)

namespace Call

/-- What a call returns. -/
abbrev Result : Call → Type
  | list _ _ _ _ => Except ListError (Page Resource)
  | tenants => Except ListError (List String)
  | openStore _ => Except StoreError String
  | read _ _ _ => Except StoreError (Page Tuple)
  | write _ _ => Except StoreError Unit

/-- Whether a call is given up when the pass is cancelled. -/
def abandoned : Call → Bool
  | write _ _ => false
  | _ => true

end Call

/-- How a call with a time limit ends. -/
inductive Verdict (α : Type) where
  | answered (a : α)
  | timedOut
  | cancelled
  deriving Repr

/-- The permissions of all global roles, and the tuples that grant them in every tenant. -/
structure Snapshot where
  resolved : ResolvedRoles := SortedMap.empty
  tuples : List Tuple := []
  deriving Inhabited

/-- A question of a pass. -/
inductive Request where
  /-- Make a call that may take so many milliseconds. -/
  | call (c : Call) (limit : Nat)
  /-- Make a snapshot the current one. -/
  | publish (snapshot : Snapshot)

namespace Request

/-- What answers a question of a pass. -/
abbrev Answer : Request → Type
  | call c _ => Verdict c.Result
  | publish _ => Unit

end Request

/-- A pass, or a part of one, that ends with an `α` or fails. -/
abbrev Pass (α : Type) := Script Request Request.Answer (Except PassError α)

namespace Pass

/-- A pass that ends at once. -/
def of (r : Except PassError α) : Pass α := .done r

/-- A pass that goes on with the result of another, if that does not fail. -/
def andThen (p : Pass α) (f : α → Pass β) : Pass β :=
  p.bind fun
    | .ok a => f a
    | .error e => .done (.error e)

/-- What a limited call of an operation returned, in the terms of the pass. -/
def settle (operation : Operation) (limit : Nat) (wrap : ε → PassError) :
    Verdict (Except ε α) → Except PassError α
  | .answered (.ok a) => .ok a
  | .answered (.error e) => .error (wrap e)
  | .timedOut => .error (.timeout operation limit)
  | .cancelled => .error .cancelled

/-- Follow pages from the first to the last: `request` asks for the page of a token, and `absorb`
takes its answer in, returning the token of the next page if there is one. -/
def pages (request : Option String → Request)
    (absorb : σ → (token : Option String) → (request token).Answer →
      Except PassError (σ × Option String)) (initial : σ) : Pass σ :=
  .iterate (initial, none) (fun s => request s.2) fun s answer =>
    match absorb s.1 s.2 answer with
    | .error e => .done (.inr (.error e))
    | .ok (acc, none) => .done (.inr (.ok acc))
    | .ok (acc, some token) => .done (.inl (acc, some token))

end Pass

/-- How passes are run. Times are in milliseconds. -/
structure PassSettings where
  writeBatchSize : Nat := 100
  listPageSize : Nat := 50000
  readPageSize : Nat := 100
  pageTimeout : Nat := 30000
  batchTimeout : Nat := 30000
  tenantConcurrency : Nat := 4
  dryRun : Bool := false
  tenants : List String := []
  interval : Nat := 300000
  deriving Inhabited

end PolicySync
