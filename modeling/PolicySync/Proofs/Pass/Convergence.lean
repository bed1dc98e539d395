import PolicySync.Proofs.Memory.Store
import PolicySync.Proofs.Pass.Reading

/-!
# What the pass of a tenant leaves behind

A pass that ends well has written every batch of the difference between what the policy asks for and
what was stored, so the tenant's keys are the desired ones and nobody else's tuples have changed
(`of_ends_reconcileTenant`). Where the keys are the desired ones already, a pass ends well and writes
nothing (`ends_reconcileTenant_of_aligned`).
-/

namespace PolicySync.Pass

open Memory Script

variable {settings : PassSettings} {snapshot : Snapshot} {tenant id : String} {b b' : Backends}

/-! ## Writing -/

/-- Batches that were written without a failure have all been applied to the tenant's tuples. -/
theorem of_ends_writeBatches (hstore : b.store.WellFormed)
    (hid : b.store.ids.get? tenant = some id) {limit total failed : Nat} {summary : WriteSummary}
    {bs : List Batch}
    (hends : Ends Backends.answer (writeBatches tenant id limit total bs failed) b (.ok summary) b') :
    failed = 0 ∧ b'.lister = b.lister ∧ b'.store.WellFormed ∧ b'.store.ids = b.store.ids ∧
      b'.store.tuplesOf tenant = Batch.applyAll (b.store.tuplesOf tenant) bs ∧
      ∀ other, other ≠ tenant → b'.store.tuplesOf other = b.store.tuplesOf other := by
  induction bs generalizing b failed with
  | nil =>
    obtain ⟨hsummary, rfl⟩ := ends_of.1 hends
    split at hsummary
    · next hfailed => exact ⟨hfailed, rfl, hstore, rfl, rfl, fun _ _ => rfl⟩
    · cases hsummary
  | cons batch bs ih =>
    rw [writeBatches, ends_ask] at hends
    obtain ⟨hwritten, hids, hcases⟩ := Store.write_cases hstore hid batch
    rcases hcases with ⟨⟨e, he⟩, -⟩ | ⟨hok, htuples, hothers⟩
    · -- A failed batch is counted, and then the pass does not end well.
      have hrest : Ends Backends.answer (writeBatches tenant id limit total bs (failed + 1))
          { b with store := (b.store.write id batch).2 } (.ok summary) b' := by
        simpa [Backends.answer, Backends.call, he] using hends
      have hnone := (ih hwritten (hids ▸ hid) hrest).1
      omega
    · have hrest : Ends Backends.answer (writeBatches tenant id limit total bs failed)
          { b with store := (b.store.write id batch).2 } (.ok summary) b' := by
        simpa [Backends.answer, Backends.call, hok] using hends
      obtain ⟨hfailed, hlister, hwf, hids', htuples', hothers'⟩ := ih hwritten (hids ▸ hid) hrest
      refine ⟨hfailed, hlister, hwf, hids'.trans hids, ?_, ?_⟩
      · rw [htuples', htuples]
        rfl
      · intro other hother
        rw [hothers' other hother, hothers other hother]

/-! ## A whole pass -/

/-- What a pass that ended well found and did. -/
structure Outcome (settings : PassSettings) (snapshot : Snapshot) (tenant : String)
    (b b' : Backends) (desired : TupleSet) (report : TenantReport) : Prop where
  asked : AskFor settings b.lister snapshot tenant desired
  shelves : b'.lister.shelves = b.lister.shelves
  store : b'.store.WellFormed
  opened : ∃ id, b'.store.ids.get? tenant = some id
  tuples : b'.store.tuplesOf tenant = Batch.applyAll (b.store.tuplesOf tenant)
    ((TupleDiff.between desired (b.store.tuplesOf tenant)).batches settings.writeBatchSize)
  others : ∀ other, other ≠ tenant → b'.store.tuplesOf other = b.store.tuplesOf other
  desired_eq : report.desired = desired.size
  actual_eq : report.actual = (b.store.tuplesOf tenant).size
  added_eq : report.added = (TupleDiff.between desired (b.store.tuplesOf tenant)).additions.length
  deleted_eq : report.deleted = (TupleDiff.between desired (b.store.tuplesOf tenant)).deletions.length

/-- To open a store gives its name. -/
theorem ends_openStore : Ends Backends.answer (openStore settings tenant) b (.ok id) b' ↔
    id = (b.store.getOrCreate tenant).1 ∧ b' = b.opened tenant := by
  rw [openStore, ends_ask, Backends.answer, Backends.call_openStore, ends_of]
  simp only [settle, Except.ok.injEq]

/-- A pass that ended well found what the tenant's resources ask for and wrote the difference. -/
theorem of_ends_reconcileTenant (hstore : b.store.WellFormed) (hdry : settings.dryRun = false)
    {report : TenantReport}
    (hends : Ends Backends.answer (reconcileTenant settings snapshot tenant) b (.ok report) b') :
    ∃ desired, Outcome settings snapshot tenant b b' desired report := by
  obtain ⟨id, b₁, hopen, hends⟩ := ends_andThen.1 hends
  obtain ⟨desired, b₂, hdesired, hends⟩ := ends_andThen.1 hends
  obtain ⟨actual, b₃, hactual, hends⟩ := ends_andThen.1 hends
  -- Opening the store leaves the tuples as they are.
  obtain ⟨rfl, rfl⟩ := ends_openStore.1 hopen
  obtain ⟨hwf, hid, hsame⟩ := Store.getOrCreate_spec hstore tenant
  -- Reading finds what the resources ask for and what is stored.
  obtain ⟨h₂, hask⟩ := (reads_desiredTuples settings tenant snapshot (b.opened tenant)).sound
    (.refl _) hdesired
  obtain ⟨h₃, -, rfl⟩ := (reads_actualTuples settings (hwf.get?_contents hid)
    (hwf.keyed_tuplesOf tenant)).sound h₂ hactual
  -- Every batch of the difference is written.
  simp only [hdry, Bool.false_eq_true, if_false, hsame] at hends
  obtain ⟨summary, b₄, hwrite, hends⟩ := ends_andThen.1 hends
  obtain ⟨hreport, rfl⟩ := ends_of.1 hends
  cases hreport
  have hstore₃ : b₃.store = (b.store.getOrCreate tenant).2 := h₃.store
  have hid₃ : b₃.store.ids.get? tenant = some (b.store.getOrCreate tenant).1 := hstore₃ ▸ hid
  obtain ⟨-, hlister, hwritten, hids, htuples, hothers⟩ :=
    of_ends_writeBatches (hstore₃ ▸ hwf) hid₃ hwrite
  refine ⟨desired, ⟨hask, ?_, hwritten, ⟨_, hids ▸ hid₃⟩, ?_, ?_, rfl, rfl, rfl, rfl⟩⟩
  · rw [hlister]
    exact h₃.shelves
  · rw [htuples, hstore₃, hsame]
  · intro other hother
    rw [hothers other hother, hstore₃, hsame]

/-- Where the desired keys are stored already, a pass ends well and changes nothing. -/
theorem ends_reconcileTenant_of_aligned (hstore : b.store.WellFormed)
    (hdry : settings.dryRun = false) (hid : b.store.ids.get? tenant = some id)
    {desired : TupleSet} (hask : AskFor settings b.lister snapshot tenant desired)
    (hkeys : ∀ k, desired.contains k = true ↔ (b.store.tuplesOf tenant).contains k = true)
    (hfits : TokensFit 0 (b.store.tuplesOf tenant).size settings.readPageSize) :
    ∃ report b', Ends Backends.answer (reconcileTenant settings snapshot tenant) b (.ok report) b' ∧
      b.Same b' ∧ report.added = 0 ∧ report.deleted = 0 ∧ report.batches = 0 := by
  have hopen : Ends Backends.answer (openStore settings tenant) b (.ok id) b := by
    rw [ends_openStore, Backends.opened, Store.getOrCreate_of_get? hid]
    exact ⟨rfl, rfl⟩
  have hdesires := reads_desiredTuples settings tenant snapshot b
  obtain ⟨b₁, hdesired⟩ := hdesires.complete (.refl b) hask
  have h₁ := (hdesires.sound (.refl b) hdesired).1
  have hstored := reads_actualTuples settings (hstore.get?_contents hid)
    (hstore.keyed_tuplesOf tenant)
  obtain ⟨b₂, hactual⟩ := hstored.complete h₁ ⟨hfits, rfl⟩
  have h₂ := (hstored.sound h₁ hactual).1
  -- There is no difference, so there is no batch.
  have hkeyed : desired.Keyed := Lister.keyed_of_desiredFrom? hask.desiredFrom?
  have hempty := (TupleDiff.isEmpty_between_iff hkeyed).2 hkeys
  obtain ⟨hadd, hdel⟩ := TupleDiff.isEmpty_iff.1 hempty
  have hbatches := TupleDiff.batches_of_isEmpty hempty settings.writeBatchSize
  have hwrite : Ends Backends.answer (writeDiff tenant id
      (TupleDiff.between desired (b.store.tuplesOf tenant)) settings.writeBatchSize
      settings.batchTimeout) b₂ (.ok {}) b₂ := by
    rw [writeDiff, hbatches]
    exact ends_of.2 ⟨rfl, rfl⟩
  let report : TenantReport := {
    tenant, store := id, desired := desired.size, actual := (b.store.tuplesOf tenant).size
    added := 0, deleted := 0, batches := 0, dryRun := false }
  have hend : Ends Backends.answer (reconcileTenant settings snapshot tenant) b (.ok report) b₂ := by
    refine ends_andThen.2 ⟨id, b, hopen, ends_andThen.2 ⟨desired, b₁, hdesired,
      ends_andThen.2 ⟨_, b₂, hactual, ?_⟩⟩⟩
    simp only [hdry, Bool.false_eq_true, if_false, hadd, hdel, List.length_nil]
    exact ends_andThen.2 ⟨{}, b₂, hwrite, ends_of.2 ⟨rfl, rfl⟩⟩
  exact ⟨report, b₂, hend, h₂, rfl, rfl, rfl⟩

end PolicySync.Pass
