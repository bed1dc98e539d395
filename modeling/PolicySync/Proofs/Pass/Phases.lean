import PolicySync.Pass.Tenant
import PolicySync.Proofs.Pass.Pages

/-!
# The phases of a tenant's pass

Between two calls the pass of a tenant is in one of a few phases: it opens the store, goes through the
resources, reads the stored tuples, or writes batches. `Phase.script` is what it still has to do, and
the `head` lemmas say which call it makes next and where the answer takes it.
-/

namespace PolicySync.Pass

/-- How far the pass of a tenant has come. -/
inductive Phase where
  | opening
  /-- Going through the resources of a kind from a token on, other kinds being left. -/
  | fetching (id : String) (kind : ResourceKind) (kinds : List ResourceKind)
      (token : Option String) (desired : TupleSet)
  /-- Reading the store from a token on. -/
  | reading (id : String) (desired : TupleSet) (token : Option String) (actual : TupleSet)
  /-- Writing the batches that are left, some having failed. -/
  | writing (id : String) (desired actual : TupleSet) (total : Nat) (rest : List Batch)
      (failed : Nat)
  /-- Given up with an error. -/
  | stopped (e : PassError)

variable (settings : PassSettings) (snapshot : Snapshot) (tenant : String)

/-- The report of a pass that has written its batches. -/
def reportOn (id : String) (desired actual : TupleSet) (batches : Nat) : TenantReport where
  tenant
  store := id
  desired := desired.size
  actual := actual.size
  added := (TupleDiff.between desired actual).additions.length
  deleted := (TupleDiff.between desired actual).deletions.length
  batches
  dryRun := false

/-- The request for a page of the tenant's resources. -/
abbrev resourcesRequest (kind : ResourceKind) (token : Option String) : Request :=
  .call (.list kind (some tenant) settings.listPageSize token) settings.pageTimeout

/-- The desired tuples with those of a page of resources. -/
def absorbResources (desired : TupleSet) (_ : Option String)
    (answer : Verdict (Except ListError (Page Resource))) :
    Except PassError (TupleSet × Option String) := do
  let page ← settle .listPage settings.pageTimeout .list answer
  return (← page.items.foldlM (addDesired snapshot.resolved) desired, nextToken page.next)

/-- The request for a page of stored tuples. -/
abbrev tuplesRequest (id : String) (token : Option String) : Request :=
  .call (.read id settings.readPageSize token) settings.pageTimeout

/-- The actual tuples with those of a page. -/
def absorbTuples (actual : TupleSet) (_ : Option String)
    (answer : Verdict (Except StoreError (Page Tuple))) :
    Except PassError (TupleSet × Option String) := do
  let page ← settle .readPage settings.pageTimeout .store answer
  return (TupleSet.insertTuples actual page.items, nextToken page.next)

namespace Phase

/-- The phase after the resources of a kind. -/
def afterKind (id : String) : List ResourceKind → TupleSet → Phase
  | [], desired => reading id desired none SortedMap.empty
  | kind :: kinds, desired => fetching id kind kinds none desired

/-- The phase after the store was opened, or could not be. -/
def afterOpening : Except PassError String → Phase
  | .error e => stopped e
  | .ok id => afterKind id ResourceKind.namespaced (TupleSet.ofTuples snapshot.tuples)

/-- The phase after a page of resources of a kind. -/
def afterResources (id : String) (kind : ResourceKind) (kinds : List ResourceKind) :
    Except PassError (TupleSet × Option String) → Phase
  | .error e => stopped e
  | .ok (desired, none) => afterKind id kinds desired
  | .ok (desired, some token) => fetching id kind kinds (some token) desired

/-- The phase before the first batch. -/
def beforeWriting (id : String) (desired actual : TupleSet) : Phase :=
  let batches := (TupleDiff.between desired actual).batches settings.writeBatchSize
  writing id desired actual batches.length batches 0

/-- The phase after a page of stored tuples. -/
def afterTuples (id : String) (desired : TupleSet) :
    Except PassError (TupleSet × Option String) → Phase
  | .error e => stopped e
  | .ok (actual, none) => beforeWriting settings id desired actual
  | .ok (actual, some token) => reading id desired (some token) actual

/-- The phase after a write call. -/
def afterWrite (id : String) (desired actual : TupleSet) (total : Nat) (rest : List Batch)
    (failed : Nat) : Verdict (Except StoreError Unit) → Phase
  | .answered (.ok _) => writing id desired actual total rest failed
  | .answered (.error _) => writing id desired actual total rest (failed + 1)
  | .timedOut => writing id desired actual total rest (failed + 1)
  | .cancelled => stopped (if failed = 0 then .cancelled
      else .batches tenant (failed + (rest.length + 1)) total)

/-- What the pass does once it has written its batches. -/
def finishing (id : String) (desired actual : TupleSet) : Pass WriteSummary → Pass TenantReport :=
  fun write => write.andThen fun summary =>
    of (.ok (reportOn tenant id desired actual summary.batches))

/-- What the pass does from the stored tuples on. -/
def readingFrom (id : String) (desired : TupleSet) (token : Option String) (actual : TupleSet) :
    Pass TenantReport :=
  (pagesFrom (tuplesRequest settings id) (absorbTuples settings) actual token).andThen fun actual =>
    finishing tenant id desired actual (writeDiff tenant id (TupleDiff.between desired actual)
      settings.writeBatchSize settings.batchTimeout)

/-- What the pass still has to do. -/
def script : Phase → Pass TenantReport
  | opening => reconcileTenant settings snapshot tenant
  | fetching id kind kinds token desired =>
    (pagesFrom (resourcesRequest settings tenant kind) (absorbResources settings snapshot) desired
      token).andThen fun desired => (desiredOfKinds settings tenant snapshot kinds desired).andThen
        fun desired => readingFrom settings tenant id desired none SortedMap.empty
  | reading id desired token actual => readingFrom settings tenant id desired token actual
  | writing id desired actual total rest failed =>
    finishing tenant id desired actual
      (writeBatches tenant id settings.batchTimeout total rest failed)
  | stopped e => of (.error e)

variable {settings snapshot tenant}

/-- After a kind the pass goes on with the next one, or with the stored tuples. -/
theorem script_afterKind (id : String) (kinds : List ResourceKind) (desired : TupleSet) :
    (desiredOfKinds settings tenant snapshot kinds desired).andThen
        (fun desired => readingFrom settings tenant id desired none SortedMap.empty) =
      (afterKind id kinds desired).script settings snapshot tenant := by
  cases kinds with
  | nil => rfl
  | cons kind kinds => exact andThen_assoc _ _ _

/-- Without a dry run the pass, once it has opened the store, goes through the resources. -/
private theorem rest_of_opening (hdry : settings.dryRun = false) (id : String) :
    ((desiredTuples settings tenant snapshot).andThen fun desired =>
      (actualTuples settings id).andThen fun actual =>
      let diff := TupleDiff.between desired actual
      let write :=
        if settings.dryRun then of (.ok {})
        else writeDiff tenant id diff settings.writeBatchSize settings.batchTimeout
      write.andThen fun summary => of (.ok {
        tenant, store := id, desired := desired.size, actual := actual.size
        added := diff.additions.length, deleted := diff.deletions.length
        batches := summary.batches, dryRun := settings.dryRun })) =
      (afterOpening snapshot (.ok id)).script settings snapshot tenant := by
  simp only [hdry, Bool.false_eq_true, if_false]
  exact script_afterKind id ResourceKind.namespaced (TupleSet.ofTuples snapshot.tuples)

/-- The pass first opens the tenant's store. -/
theorem head_opening (hdry : settings.dryRun = false) :
    (opening.script settings snapshot tenant).head =
      .ask (.call (.openStore tenant) settings.pageTimeout) fun v =>
        (afterOpening snapshot (settle .storeLookup settings.pageTimeout .store v)).script settings
          snapshot tenant := by
  have hscript : opening.script settings snapshot tenant = (openStore settings tenant).andThen
      fun id => (afterOpening snapshot (.ok id)).script settings snapshot tenant := by
    rw [script, reconcileTenant]
    congr 1
    funext id
    exact rest_of_opening hdry id
  rw [hscript]
  show Script.Head.ask _ _ = _
  congr 1
  funext v
  -- What opening the store returns is settled before the rest of the pass sees it.
  show (of (settle .storeLookup settings.pageTimeout .store v)).bind _ = _
  cases settle .storeLookup settings.pageTimeout .store v with
  | error e => rfl
  | ok id => rfl

/-- While it goes through resources, the pass asks for their next page. -/
theorem head_fetching (id : String) (kind : ResourceKind) (kinds : List ResourceKind)
    (token : Option String) (desired : TupleSet) :
    ((fetching id kind kinds token desired).script settings snapshot tenant).head =
      .ask (resourcesRequest settings tenant kind token) fun v =>
        (afterResources id kind kinds (absorbResources settings snapshot desired token v)).script
          settings snapshot tenant := by
  rw [script, head_pagesFrom_andThen]
  congr 1
  funext v
  cases absorbResources settings snapshot desired token v with
  | error e => rfl
  | ok taken =>
    obtain ⟨desired', next⟩ := taken
    cases next with
    | none => exact script_afterKind id kinds desired'
    | some t => rfl

/-- While it reads the store, the pass asks for the next page of tuples. -/
theorem head_reading (id : String) (desired : TupleSet) (token : Option String)
    (actual : TupleSet) :
    ((reading id desired token actual).script settings snapshot tenant).head =
      .ask (tuplesRequest settings id token) fun v =>
        (afterTuples settings id desired (absorbTuples settings actual token v)).script settings
          snapshot tenant := by
  rw [script, readingFrom, head_pagesFrom_andThen]
  congr 1
  funext v
  cases absorbTuples settings actual token v with
  | error e => rfl
  | ok taken =>
    obtain ⟨actual', next⟩ := taken
    cases next <;> rfl

/-- While it writes, the pass asks for the next batch to be written. -/
theorem head_writing (id : String) (desired actual : TupleSet) (total : Nat) (batch : Batch)
    (rest : List Batch) (failed : Nat) :
    ((writing id desired actual total (batch :: rest) failed).script settings snapshot tenant).head =
      .ask (.call (.write id batch) settings.batchTimeout) fun v =>
        (afterWrite tenant id desired actual total rest failed v).script settings snapshot tenant := by
  show Script.Head.ask _ _ = _
  congr 1
  funext v
  cases v with
  | answered r => cases r <;> rfl
  | timedOut => rfl
  | cancelled => rfl

/-- A pass ends well just when it has written all of its batches. -/
theorem eq_writing_of_head_done {ph : Phase} {report : TenantReport} (hdry : settings.dryRun = false)
    (h : (ph.script settings snapshot tenant).head = .done (.ok report)) :
    ∃ id desired actual total, ph = writing id desired actual total [] 0 := by
  cases ph with
  | opening =>
    rw [head_opening hdry] at h
    cases h
  | fetching id kind kinds token desired =>
    rw [head_fetching] at h
    cases h
  | reading id desired token actual =>
    rw [head_reading] at h
    cases h
  | writing id desired actual total rest failed =>
    cases rest with
    | cons batch rest =>
      rw [head_writing] at h
      cases h
    | nil =>
      cases failed with
      | zero => exact ⟨id, desired, actual, total, rfl⟩
      | succ failed => cases h
  | stopped e => cases h

end Phase

end PolicySync.Pass
