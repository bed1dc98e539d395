import PolicySync.Pass.Snapshot

/-!
# The pass of one tenant

The pass opens the tenant's store, reads the tuples the policy asks for and those that are stored,
and writes the difference in batches. Nothing is written before both sets have been read to the
end. A batch that fails does not keep later ones from being written; after a cancellation no
further batch is started.
-/

namespace PolicySync

/-- What a tenant's pass found and did. -/
structure TenantReport where
  tenant : String
  store : String
  desired : Nat
  actual : Nat
  added : Nat
  deleted : Nat
  batches : Nat
  dryRun : Bool
  deriving DecidableEq, Repr

/-- Whether the pass found nothing to change. -/
def TenantReport.inSync (r : TenantReport) : Bool := r.added == 0 && r.deleted == 0

/-- How many batches a pass wrote, and how many of them failed. -/
structure WriteSummary where
  batches : Nat := 0
  failed : Nat := 0
  deriving DecidableEq, Repr, Inhabited

namespace Pass

/-- The desired tuples with those of one more resource. -/
def addDesired (resolved : ResolvedRoles) (desired : TupleSet) (r : Resource) :
    Except PassError TupleSet :=
  match r.validTuples (some resolved) with
  | .ok ts => .ok (TupleSet.insertTuples desired ts)
  | .error e => .error (.policy r.kind r.name e)

/-- The desired tuples with those of all the tenant's resources of one kind. -/
def desiredOfKind (settings : PassSettings) (tenant : String) (snapshot : Snapshot)
    (kind : ResourceKind) (desired : TupleSet) : Pass TupleSet :=
  pages (fun token => .call (.list kind (some tenant) settings.listPageSize token)
      settings.pageTimeout)
    (fun desired _ answer => do
      let page ← settle .listPage settings.pageTimeout .list answer
      return (← page.items.foldlM (addDesired snapshot.resolved) desired, nextToken page.next))
    desired

/-- The desired tuples with those of all the tenant's resources of several kinds. -/
def desiredOfKinds (settings : PassSettings) (tenant : String) (snapshot : Snapshot) :
    List ResourceKind → TupleSet → Pass TupleSet
  | [], desired => of (.ok desired)
  | kind :: kinds, desired =>
    (desiredOfKind settings tenant snapshot kind desired).andThen
      (desiredOfKinds settings tenant snapshot kinds)

/-- The tuples that the policy asks for in a tenant. -/
def desiredTuples (settings : PassSettings) (tenant : String) (snapshot : Snapshot) :
    Pass TupleSet :=
  desiredOfKinds settings tenant snapshot ResourceKind.namespaced
    (TupleSet.ofTuples snapshot.tuples)

/-- The tuples of a store. -/
def actualTuples (settings : PassSettings) (store : String) : Pass TupleSet :=
  pages (fun token => .call (.read store settings.readPageSize token) settings.pageTimeout)
    (fun actual _ answer => do
      let page ← settle .readPage settings.pageTimeout .store answer
      return (TupleSet.insertTuples actual page.items, nextToken page.next))
    SortedMap.empty

/-- Write batches one after the other, `failed` of the `total` having failed before. -/
def writeBatches (tenant store : String) (limit total : Nat) :
    List Batch → Nat → Pass WriteSummary
  | [], failed =>
    of (if failed = 0 then .ok { batches := total, failed }
      else .error (.batches tenant failed total))
  | batch :: rest, failed =>
    .ask (.call (.write store batch) limit) fun
      | .answered (.ok _) => writeBatches tenant store limit total rest failed
      | .answered (.error _) => writeBatches tenant store limit total rest (failed + 1)
      | .timedOut => writeBatches tenant store limit total rest (failed + 1)
      | .cancelled =>
        of (.error (if failed = 0 then .cancelled
          else .batches tenant (failed + (rest.length + 1)) total))

/-- Write a difference to a store in batches of limited size. -/
def writeDiff (tenant store : String) (diff : TupleDiff) (batchSize limit : Nat) :
    Pass WriteSummary :=
  let batches := diff.batches batchSize
  writeBatches tenant store limit batches.length batches 0

/-- Open the store of a tenant. -/
def openStore (settings : PassSettings) (tenant : String) : Pass String :=
  .ask (.call (.openStore tenant) settings.pageTimeout) fun answer =>
    of (settle .storeLookup settings.pageTimeout .store answer)

/-- Bring the store of a tenant in line with the policy. -/
def reconcileTenant (settings : PassSettings) (snapshot : Snapshot) (tenant : String) :
    Pass TenantReport :=
  (openStore settings tenant).andThen fun store =>
  (desiredTuples settings tenant snapshot).andThen fun desired =>
  (actualTuples settings store).andThen fun actual =>
  let diff := TupleDiff.between desired actual
  let write :=
    if settings.dryRun then of (.ok {})
    else writeDiff tenant store diff settings.writeBatchSize settings.batchTimeout
  write.andThen fun summary => of (.ok {
    tenant, store
    desired := desired.size
    actual := actual.size
    added := diff.additions.length
    deleted := diff.deletions.length
    batches := summary.batches
    dryRun := settings.dryRun })

/-- Bring the store of a tenant in line with the policy as it is now. -/
def reconcile (settings : PassSettings) (tenant : String) : Pass TenantReport :=
  (refreshSnapshot settings).andThen fun snapshot => reconcileTenant settings snapshot tenant

end Pass

end PolicySync
