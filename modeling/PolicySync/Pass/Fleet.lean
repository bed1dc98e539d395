import PolicySync.Pass.Tenant

/-!
# The pass over all tenants

A full pass refreshes the snapshot, finds the tenants, and runs the pass of each. It fails only
when it cannot start; a tenant that fails is listed in the report beside those that succeeded.
`Fleet` holds the tenants whose passes wait, run or have ended, with at most `width` of them
running at once; whoever runs a fleet chooses which running pass moves next.
-/

namespace PolicySync

/-- A tenant whose pass failed. -/
structure TenantFailure where
  tenant : String
  error : PassError
  deriving DecidableEq, Repr

/-- The outcome of a full pass, both lists in the order of tenants. -/
structure PassReport where
  tenants : List TenantReport
  failures : List TenantFailure
  deriving DecidableEq, Repr

namespace PassReport

/-- Whether no tenant failed. -/
def isSuccess (r : PassReport) : Bool := r.failures.isEmpty

/-- The number of tuples added in all tenants. -/
def added (r : PassReport) : Nat := r.tenants.foldl (fun n t => n + t.added) 0

/-- The number of tuples deleted in all tenants. -/
def deleted (r : PassReport) : Nat := r.tenants.foldl (fun n t => n + t.deleted) 0

/-- The report on tenants whose passes have ended. -/
def ofOutcomes (outcomes : List (String × Except PassError TenantReport)) : PassReport where
  tenants :=
    (outcomes.filterMap fun o => o.2.toOption).mergeSort fun a b => decide (a.tenant ≤ b.tenant)
  failures :=
    (outcomes.filterMap fun o =>
      match o.2 with
      | .ok _ => none
      | .error e => some { tenant := o.1, error := e }).mergeSort
        fun a b => decide (a.tenant ≤ b.tenant)

/-- Why a full pass counts as failed, if it does: it could not start, or tenants failed. -/
def failureText? : Except PassError PassReport → Option String
  | .error e => some e.message
  | .ok r =>
    if r.isSuccess then none
    else some ("tenants failed: " ++ ", ".intercalate (r.failures.map (·.tenant)))

end PassReport

/-- Tenants whose passes, each in a state of type `τ`, wait, run or have ended. -/
structure Fleet (τ : Type u) where
  /-- The number of passes that may run at once. -/
  width : Nat
  /-- The tenants whose passes have not started, next one first. -/
  waiting : List String
  /-- The passes that run, in the order in which they started. -/
  running : List (String × τ)
  /-- The passes that have ended, in the order in which they ended. -/
  ended : List (String × Except PassError TenantReport)

namespace Fleet

variable {τ : Type u}

/-- Start passes while there is room for them. -/
def fill (start : String → τ) (f : Fleet τ) : Fleet τ :=
  let room := f.width - f.running.length
  { f with
    waiting := f.waiting.drop room
    running := f.running ++ (f.waiting.take room).map fun tenant => (tenant, start tenant) }

/-- A fleet that starts with the first tenants of a list; a width of zero counts as one. -/
def launch (start : String → τ) (width : Nat) (tenants : List String) : Fleet τ :=
  fill start { width := max width 1, waiting := tenants, running := [], ended := [] }

/-- The running pass at a position has moved to a new state. -/
def advance (f : Fleet τ) (i : Nat) (state : τ) : Fleet τ :=
  { f with running := f.running.modify i fun e => (e.1, state) }

/-- The running pass at a position has ended, which makes room for the next tenant. -/
def finish (start : String → τ) (f : Fleet τ) (i : Nat) (r : Except PassError TenantReport) :
    Fleet τ :=
  match f.running[i]? with
  | none => f
  | some e =>
    fill start { f with
      running := f.running.eraseIdx i
      ended := f.ended ++ [(e.1, r)] }

/-- The report, once every pass has ended. -/
def report? (f : Fleet τ) : Option PassReport :=
  if f.running.isEmpty && f.waiting.isEmpty then some (.ofOutcomes f.ended) else none

end Fleet

namespace Pass

/-- The tenants to reconcile: those of the settings, or else all that the lister knows. -/
def tenants (settings : PassSettings) : Pass (List String) :=
  if settings.tenants.isEmpty then
    .ask (.call .tenants settings.pageTimeout) fun answer =>
      of (settle .tenantDiscovery settings.pageTimeout .list answer)
  else of (.ok settings.tenants)

/-- The start of a full pass: a fresh snapshot and the tenants. -/
def prepareAll (settings : PassSettings) : Pass (Snapshot × List String) :=
  (refreshSnapshot settings).andThen fun snapshot =>
  (tenants settings).andThen fun names => of (.ok (snapshot, names))

end Pass

end PolicySync
