import PolicySync.Proofs.Pass.Convergence
import PolicySync.Proofs.Simulation.Calm

/-!
# Reconciling a tenant in a calm world

In a calm world a pass that ends well leaves the tenant with the tuples that the policy asks for and
touches nobody else's; the pass after it finds nothing to do (`reconcile_aligns`). Sizes of pages and
batches do not matter, nor do conditions on tuples that are stored already.
-/

namespace PolicySync

open Memory Simulation

namespace Pass

variable {settings : PassSettings} {tenant : String} {b b' : Backends} {report : TenantReport}

/-- A pass has brought a tenant's tuples in line with the desired ones, and reports so. -/
structure Aligned (before after : Store) (tenant : String) (desired : TupleSet)
    (report : TenantReport) : Prop where
  /-- The desired keys are stored: a tuple that was there stays, a new one is unconditional. -/
  tuples : ∀ k, (after.tuplesOf tenant).get? k =
    if desired.contains k = true then some (((before.tuplesOf tenant).get? k).getD { key := k })
    else none
  others : ∀ other, other ≠ tenant → after.tuplesOf other = before.tuplesOf other
  desired_eq : report.desired = desired.size
  actual_eq : report.actual = (before.tuplesOf tenant).size
  added_eq : report.added =
    (desired.keys.filter fun k => !(before.tuplesOf tenant).contains k).length
  deleted_eq : report.deleted =
    ((before.tuplesOf tenant).keys.filter fun k => !desired.contains k).length

/-- A pass that ended well and refreshed the snapshot first. -/
theorem of_ends_reconcile (hstore : b.store.WellFormed) (hdry : settings.dryRun = false)
    (hends : Script.Ends Backends.answer (reconcile settings tenant) b (.ok report) b') :
    ∃ snapshot desired, HasSnapshot settings b.lister snapshot ∧
      Outcome settings snapshot tenant b b' desired report := by
  obtain ⟨snapshot, b₁, hrefresh, hends⟩ := ends_andThen.1 hends
  obtain ⟨hsame, hsnapshot⟩ := (reads_refreshSnapshot settings b).sound (.refl b) hrefresh
  obtain ⟨desired, houtcome⟩ := of_ends_reconcileTenant (hsame.store ▸ hstore) hdry hends
  refine ⟨snapshot, desired, hsnapshot, ?_⟩
  obtain ⟨hasked, hshelves, hwf, hopened, htuples, hothers, hd, ha, hadd, hdel⟩ := houtcome
  rw [hsame.store] at htuples hothers ha hadd hdel
  exact ⟨hasked.congr hsame.shelves.symm, hshelves.trans hsame.shelves, hwf, hopened, htuples, hothers,
    hd, ha, hadd, hdel⟩

/-- A pass that refreshes the snapshot first changes nothing where the desired keys are stored. -/
theorem ends_reconcile_of_aligned {snapshot : Snapshot} {id : String} {desired : TupleSet}
    (hstore : b.store.WellFormed) (hdry : settings.dryRun = false)
    (hid : b.store.ids.get? tenant = some id) (hsnapshot : HasSnapshot settings b.lister snapshot)
    (hask : AskFor settings b.lister snapshot tenant desired)
    (hkeys : ∀ k, desired.contains k = true ↔ (b.store.tuplesOf tenant).contains k = true)
    (hfits : TokensFit 0 (b.store.tuplesOf tenant).size settings.readPageSize) :
    ∃ report b', Script.Ends Backends.answer (reconcile settings tenant) b (.ok report) b' ∧
      b.Same b' ∧ report.added = 0 ∧ report.deleted = 0 ∧ report.batches = 0 := by
  have hrefreshes := reads_refreshSnapshot settings b
  obtain ⟨b₁, hrefresh⟩ := hrefreshes.complete (.refl b) hsnapshot
  have hsame := (hrefreshes.sound (.refl b) hrefresh).1
  rw [← hsame.store] at hstore hid hkeys hfits
  obtain ⟨report, b', hends, hsame', hreport⟩ := ends_reconcileTenant_of_aligned hstore hdry hid
    (hask.congr hsame.shelves) hkeys hfits
  exact ⟨report, b', ends_andThen.2 ⟨snapshot, b₁, hrefresh, hends⟩, hsame.trans hsame', hreport⟩

/-- What a pass left behind is in line with what the policy asks for. -/
theorem Outcome.aligned {snapshot : Snapshot} {desired : TupleSet}
    (h : Outcome settings snapshot tenant b b' desired report)
    (hdesired : b.lister.desired? tenant = some desired) (hkeyed : desired.Keyed) :
    Aligned b.store b'.store tenant desired report := by
  refine ⟨fun k => ?_, h.others, h.desired_eq, h.actual_eq, ?_, ?_⟩
  · rw [h.tuples, TupleDiff.get?_applyAll_of_perm hkeyed (.refl _), Lister.get?_of_desired? hdesired]
    split
    · cases (b.store.tuplesOf tenant).get? k <;> rfl
    · rfl
  · rw [h.added_eq, TupleDiff.length_additions_between]
  · rw [h.deleted_eq, TupleDiff.length_deletions_between]

/-- After a pass that aligns, the stored keys are the desired ones. -/
theorem Aligned.contains {before after : Store} {desired : TupleSet}
    (h : Aligned before after tenant desired report) (k : TupleKey) :
    desired.contains k = true ↔ (after.tuplesOf tenant).contains k = true := by
  rw [SortedMap.contains_eq_isSome (after.tuplesOf tenant), h.tuples k]
  split
  · next hk => simp [hk]
  · next hk => simp [hk]

end Pass

/-- When a pass ends well in a calm world, the tenant's tuples are in line with what the policy asks
for, and the pass right after it ends well too, with nothing to add, to delete or to write. -/
theorem reconcile_aligns {w w' : World} {party : Party} {settings : PassSettings} {tenant : String}
    {report : TenantReport} (hcalm : w.Calm party) (hstore : w.store.Reachable)
    (hdry : settings.dryRun = false)
    (hends : Strand.Ends party w (.ready (Pass.reconcile settings tenant)) (.ok report) w') :
    ∃ desired, w.lister.desired? tenant = some desired ∧
      Pass.Aligned w.store w'.store tenant desired report ∧
      -- A store holds no more tuples than there are offsets.
      (desired.size ≤ offsetBound → ∃ report' w'',
        Strand.Ends party w' (.ready (Pass.reconcile settings tenant)) (.ok report') w'' ∧
          report'.added = 0 ∧ report'.deleted = 0 ∧ report'.batches = 0 ∧
          w''.store = w'.store) := by
  obtain ⟨hscript, hcalm'⟩ := hends.script hcalm
  obtain ⟨snapshot, desired, hsnapshot, houtcome⟩ :=
    Pass.of_ends_reconcile hstore.wellFormed hdry hscript
  have hfrom := houtcome.asked.desiredFrom?
  have hdesired : w.lister.desired? tenant = some desired :=
    Option.bind_eq_some_iff.2 ⟨snapshot, hsnapshot.snapshot?, hfrom⟩
  have haligned : Pass.Aligned w.store w'.store tenant desired report :=
    houtcome.aligned hdesired (Lister.keyed_of_desiredFrom? hfrom)
  refine ⟨desired, hdesired, haligned, fun hsize => ?_⟩
  -- The stored keys are the desired ones now, so the next pass finds no difference.
  obtain ⟨id, hid⟩ := houtcome.opened
  have hcount : (w'.store.tuplesOf tenant).size ≤ offsetBound := by
    rw [← SortedMap.length_keys, ← SortedMap.keys_eq_of_contains haligned.contains,
      SortedMap.length_keys]
    exact hsize
  obtain ⟨report', b'', hends', hsame, hreport⟩ := Pass.ends_reconcile_of_aligned houtcome.store
    hdry hid (hsnapshot.congr houtcome.shelves) (houtcome.asked.congr houtcome.shelves)
    haligned.contains (tokensFit_of_length_le hcount 0 settings.readPageSize)
  obtain ⟨w'', hends'', rfl⟩ := Strand.ends_of_script hends' hcalm' rfl
  exact ⟨report', w'', hends'', hreport.1, hreport.2.1, hreport.2.2, hsame.store⟩

/-- The world of the office. -/
def officeWorld : World where
  lister := Backends.office.lister
  store := Backends.office.store

/-- The smallest pages and batches there are. -/
def officeSettings : PassSettings := { listPageSize := 0, readPageSize := 1, writeBatchSize := 0 }

/-- In the office one tuple is added and two are deleted, and a second pass has nothing to do. -/
theorem reconcile_aligns_office : ∃ report w' desired,
    officeWorld.lister.desired? "north" = some desired ∧
      Pass.Aligned officeWorld.store w'.store "north" desired report ∧
      report.added = 1 ∧ report.deleted = 2 ∧ ∃ report' w'',
        Strand.Ends .caller w' (.ready (Pass.reconcile officeSettings "north")) (.ok report') w'' ∧
          report'.batches = 0 ∧ w''.store = w'.store := by
  let report : TenantReport := {
    tenant := "north", store := "store-001", desired := 2, actual := 3, added := 1, deleted := 2
    batches := 3, dryRun := false }
  have hrun : (Script.run Backends.answer 20 (Pass.reconcile officeSettings "north")
      officeWorld.backends).map (fun p => p.1.toOption) = some (some report) := by
    decide +kernel
  obtain ⟨⟨result, b'⟩, hresult, hreport⟩ := Option.map_eq_some_iff.1 hrun
  obtain rfl : result = .ok report := Fallible.toOption_eq_some.1 hreport
  have hcalm : officeWorld.Calm .caller := ⟨rfl, rfl, rfl⟩
  obtain ⟨w', hends, rfl⟩ := Strand.ends_of_script (Script.ends_of_run hresult) hcalm rfl
  obtain ⟨desired, hdesired, haligned, hagain⟩ :=
    reconcile_aligns hcalm (.seed .empty "north" _) rfl hends
  have hsize : desired.size ≤ offsetBound := by
    rw [← haligned.desired_eq]
    decide
  obtain ⟨report', w'', hends', -, -, hbatches, hstore⟩ := hagain hsize
  exact ⟨report, w', desired, hdesired, haligned, rfl, rfl, report', w'', hends', hbatches, hstore⟩

end PolicySync
