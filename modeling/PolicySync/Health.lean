/-!
# Health of the reconciler

Every pass is recorded. The health follows from how many passes in a row have failed: none is
healthy, one or two are degraded, three or more are unhealthy.
-/

namespace PolicySync

/-- How well the reconciler does. -/
inductive HealthStatus where
  | healthy
  | degraded
  | unhealthy
  deriving DecidableEq, Repr

namespace HealthStatus

/-- The status after a number of failures in a row. -/
def ofFailures (n : Nat) : HealthStatus :=
  if n = 0 then healthy else if n < 3 then degraded else unhealthy

/-- The word for a status. -/
def name : HealthStatus → String
  | healthy => "healthy"
  | degraded => "degraded"
  | unhealthy => "unhealthy"

end HealthStatus

/-- The outcome of one pass. -/
structure PassRecord where
  /-- The position of the pass among all recorded ones, from one on. -/
  number : Nat
  succeeded : Bool
  error : Option String
  deriving DecidableEq, Repr

/-- The last pass and the number of failures in a row up to it. -/
structure Health where
  last : Option PassRecord := none
  /-- The passes that have failed since one succeeded. Fewer than `UInt32.size` in a row are counted
  alike by 32 bits. -/
  failures : Nat := 0
  recorded : Nat := 0
  deriving Repr, Inhabited

namespace Health

/-- The status of the reconciler. -/
def status (h : Health) : HealthStatus := .ofFailures h.failures

/-- The health after one more pass. -/
def record (h : Health) (succeeded : Bool) (error : Option String) : Health where
  last := some { number := h.recorded + 1, succeeded, error }
  failures := if succeeded then 0 else h.failures + 1
  recorded := h.recorded + 1

end Health

end PolicySync
