import PolicySync.Proofs.Memory.Answers
import PolicySync.Proofs.Memory.Desired
import PolicySync.Proofs.Pass.Phases

/-!
# What every phase of a pass can rely on

While passes of one tenant run beside each other, the stored tuples change between the calls of a
pass. `Phase.Sound` is what stays true of a pass all the same: what it has read of the desired tuples
is stored, and it writes only desired tuples and deletes only others. `Phase.Clears` says that its
batches delete all that is stored and not desired. A pass that is `Phase.Fresh` has read the store as
it is, so it clears it once it comes to write. One step of a pass keeps all of this (`Phase.step`).
-/

namespace PolicySync.Pass

open Memory Backends

/-- Between two moments no stored tuple that is desired has gone, and only desired ones have come. -/
structure Moves (desired before after : TupleSet) : Prop where
  kept : ∀ k, desired.contains k = true → before.contains k = true → after.contains k = true
  added : ∀ k, after.contains k = true → before.contains k = true ∨ desired.contains k = true

/-- To change nothing moves towards what is desired. -/
theorem Moves.refl (desired s : TupleSet) : Moves desired s s :=
  ⟨fun _ _ h => h, fun _ h => .inl h⟩

/-- So do two changes that do. -/
theorem Moves.trans {desired s s' s'' : TupleSet} (h : Moves desired s s')
    (h' : Moves desired s' s'') : Moves desired s s'' where
  kept k hk hs := h'.kept k hk (h.kept k hk hs)
  added k hs := (h'.added k hs).elim (h.added k) .inr

/-- A batch writes only desired tuples and deletes only others. -/
def Agreeable (desired : TupleSet) (batch : Batch) : Prop :=
  (∀ t ∈ batch.writes, desired.contains t.key = true) ∧
    ∀ k ∈ batch.deletes, ¬ desired.contains k = true

/-- A batch that agrees with what is desired moves towards it. -/
theorem Agreeable.moves {desired : TupleSet} {batch : Batch} (h : Agreeable desired batch)
    (s : TupleSet) : Moves desired s (batch.applyTo s) where
  kept k hk hs := Batch.contains_applyTo.2 (.inl ⟨hs, fun hdel => h.2 k hdel hk⟩)
  added k hs := by
    rcases Batch.contains_applyTo.1 hs with ⟨hold, -⟩ | ⟨t, ht, rfl⟩
    · exact .inl hold
    · exact .inr (h.1 t ht)

/-- What a pass has read of the store is stored still, as far as it is desired. -/
def StillStored (desired stored actual : TupleSet) : Prop :=
  ∀ k, actual.contains k = true → desired.contains k = true → stored.contains k = true

/-- Tuples that are stored now can be added to what was read before. -/
theorem StillStored.insertTuples {desired stored actual : TupleSet}
    (h : StillStored desired stored actual) (hkeyed : stored.Keyed) {ts : List Tuple}
    (hts : ∀ t ∈ ts, t ∈ stored.values) :
    StillStored desired stored (TupleSet.insertTuples actual ts) := by
  intro k hk hd
  rcases TupleSet.contains_insertTuples.1 hk with hk | ⟨t, ht, rfl⟩
  · exact h k hk hd
  · exact SortedMap.contains_of_get? (hkeyed.key_of_mem (hts t ht))

namespace Phase

variable (l : Lister) (snapshot : Snapshot) (tenant : String) (desired : TupleSet)

/-- What can be relied on in a phase, whatever other passes of the tenant do. -/
def Sound (b : Backends) : Phase → Prop
  | opening => True
  | fetching id kind kinds token acc =>
    b.store.ids.get? tenant = some id ∧
      -- What is left to take in leads to what the tenant's resources ask for.
      ∀ n, offset token = .ok n →
        ((l.shelf ⟨kind, some tenant⟩).drop n ++
          kinds.flatMap fun kind => l.shelf ⟨kind, some tenant⟩).foldlM
            (addDesired snapshot.resolved) acc =
          (l.resourcesOf tenant).foldlM (addDesired snapshot.resolved)
            (TupleSet.ofTuples snapshot.tuples)
  | reading id acc _ actual =>
    b.store.ids.get? tenant = some id ∧ acc = desired ∧
      StillStored desired (b.store.tuplesOf tenant) actual
  | writing id _ _ _ rest failed =>
    b.store.ids.get? tenant = some id ∧ (∀ batch ∈ rest, Agreeable desired batch) ∧
      -- A desired tuple that is not stored is still to be written.
      (failed = 0 → ∀ k, desired.contains k = true →
        (b.store.tuplesOf tenant).contains k = true ∨ ∃ batch ∈ rest, ∃ t ∈ batch.writes, t.key = k)
  | stopped _ => True

/-- The pass deletes every stored tuple that is not desired, unless it has failed in a part. -/
def Clears (s : TupleSet) : Phase → Prop
  | writing _ _ _ _ rest failed => failed = 0 → ∀ k, s.contains k = true →
      ¬ desired.contains k = true → ∃ batch ∈ rest, k ∈ batch.deletes
  | stopped _ => True
  | _ => False

/-- The pass has read the tuples of a set, as far as it has come, and will clear them. -/
def Fresh (s : TupleSet) : Phase → Prop
  | reading _ _ token actual =>
    ∀ n, offset token = .ok n → actual = TupleSet.ofTuples (s.values.take n)
  | writing id acc actual total rest failed =>
    Clears desired s (writing id acc actual total rest failed)
  | _ => True

variable {l snapshot tenant desired} {settings : PassSettings} {b b' : Backends} {ph : Phase}

/-! ## Steps of others -/

/-- What a pass relies on stays true when others write. -/
theorem Sound.mono (h : ph.Sound l snapshot tenant desired b) (hkeeps : Keeps tenant b b')
    (hmoves : Moves desired (b.store.tuplesOf tenant) (b'.store.tuplesOf tenant)) :
    ph.Sound l snapshot tenant desired b' := by
  cases ph with
  | opening => trivial
  | fetching id kind kinds token acc => exact ⟨hkeeps.ids id h.1, h.2⟩
  | reading id acc token actual =>
    obtain ⟨hid, hacc, hactual⟩ := h
    exact ⟨hkeeps.ids id hid, hacc, fun k hk hd => hmoves.kept k hd (hactual k hk hd)⟩
  | writing id acc actual total rest failed =>
    obtain ⟨hid, hrest, hwrites⟩ := h
    refine ⟨hkeeps.ids id hid, hrest, fun hfailed k hk => ?_⟩
    exact (hwrites hfailed k hk).imp_left (hmoves.kept k hk)
  | stopped e => trivial

/-- A pass that clears the store still does so when others write. -/
theorem Clears.mono {s s' : TupleSet} (h : ph.Clears desired s) (hmoves : Moves desired s s') :
    ph.Clears desired s' := by
  cases ph with
  | writing id acc actual total rest failed =>
    -- What others bring in is desired, so what is not was there before.
    intro hfailed k hk hd
    exact h hfailed k ((hmoves.added k hk).resolve_right hd) hd
  | stopped e => trivial
  | _ => exact h

/-! ## From one phase to the next -/

/-- After the resources of some kinds the pass relies on what the others lead to. -/
theorem sound_afterKind {id : String} {kinds : List ResourceKind} {acc : TupleSet}
    (hdesired : l.desiredFrom? snapshot tenant = some desired)
    (hid : b.store.ids.get? tenant = some id)
    (hleft : (kinds.flatMap fun kind => l.shelf ⟨kind, some tenant⟩).foldlM
        (addDesired snapshot.resolved) acc =
      (l.resourcesOf tenant).foldlM (addDesired snapshot.resolved)
        (TupleSet.ofTuples snapshot.tuples)) :
    (afterKind id kinds acc).Sound l snapshot tenant desired b := by
  cases kinds with
  | nil =>
    have hall := Lister.desiredFrom?_of_foldlM hleft.symm
    rw [hdesired] at hall
    refine ⟨hid, (Option.some.inj hall).symm, fun k hk => ?_⟩
    rw [SortedMap.contains_empty] at hk
    cases hk
  | cons kind kinds =>
    refine ⟨hid, fun n hn => ?_⟩
    cases hn
    exact hleft

/-- What was read of the kinds so far is up to date. -/
theorem fresh_afterKind (id : String) (kinds : List ResourceKind) (acc s : TupleSet) :
    (afterKind id kinds acc).Fresh desired s := by
  cases kinds with
  | nil =>
    intro n hn
    cases hn
    rfl
  | cons kind kinds => trivial

/-- The difference to what was read has only agreeable batches, which write what is missing. -/
theorem sound_beforeWriting {id : String} {actual : TupleSet} (hkeyed : desired.Keyed)
    (hid : b.store.ids.get? tenant = some id)
    (hactual : StillStored desired (b.store.tuplesOf tenant) actual) :
    (beforeWriting settings id desired actual).Sound l snapshot tenant desired b := by
  refine ⟨hid, fun batch hbatch => ⟨fun t ht => ?_, fun k hk => ?_⟩, fun _ k hk => ?_⟩
  · exact SortedMap.contains_of_get? (TupleDiff.of_mem_writes_between hkeyed hbatch ht).1
  · exact (TupleDiff.of_mem_deletes_between hbatch hk).2
  · by_cases hread : actual.contains k = true
    · exact .inl (hactual k hread hk)
    · right
      obtain ⟨t, ht, hkey⟩ := (TupleDiff.exists_mem_additions_between hkeyed).2 ⟨hk, hread⟩
      obtain ⟨batch, hbatch, hwrite⟩ := TupleDiff.mem_writes_batches.2 ht
      exact ⟨batch, hbatch, t, hwrite, hkey⟩

/-- The difference to what is stored clears the store. -/
theorem clears_beforeWriting (settings : PassSettings) (id : String) (desired s : TupleSet) :
    (beforeWriting settings id desired s).Clears desired s := by
  intro _ k hk hd
  exact TupleDiff.mem_deletes_batches.2 (TupleDiff.mem_deletions_between.2 ⟨hk, hd⟩)

/-! ## Steps of the pass itself -/

/-- A step of a pass takes it to another phase, and the store to another state, with all that can be
relied on. -/
structure Advances (l : Lister) (snapshot : Snapshot) (tenant : String) (desired : TupleSet)
    (b b' : Backends) (ph ph' : Phase) : Prop where
  keeps : Keeps tenant b b'
  moves : Moves desired (b.store.tuplesOf tenant) (b'.store.tuplesOf tenant)
  sound : ph'.Sound l snapshot tenant desired b'
  clears : ph.Clears desired (b.store.tuplesOf tenant) →
    ph'.Clears desired (b'.store.tuplesOf tenant)
  fresh : ph.Fresh desired (b.store.tuplesOf tenant) →
    b'.store.tuplesOf tenant = b.store.tuplesOf tenant ∧
        ph'.Fresh desired (b'.store.tuplesOf tenant) ∨
      ph'.Clears desired (b'.store.tuplesOf tenant)

/-- A step that changes no tuples advances the pass when the new phase is as good as the old one. -/
theorem Advances.of_quiet {ph' : Phase} (hkeeps : Keeps tenant b b')
    (htuples : b'.store.tuplesOf tenant = b.store.tuplesOf tenant)
    (hsound : ph'.Sound l snapshot tenant desired b')
    (hclears : ph.Clears desired (b.store.tuplesOf tenant) →
      ph'.Clears desired (b.store.tuplesOf tenant))
    (hfresh : ph.Fresh desired (b.store.tuplesOf tenant) →
      ph'.Fresh desired (b.store.tuplesOf tenant)) :
    Advances l snapshot tenant desired b b' ph ph' where
  keeps := hkeeps
  moves := htuples ▸ Moves.refl desired _
  sound := hsound
  clears := by
    rw [htuples]
    exact hclears
  fresh h := by
    rw [htuples]
    exact .inl ⟨rfl, hfresh h⟩

/-- A pass that stops is relied on for nothing. -/
theorem Advances.of_stopped {e : PassError} (hkeeps : Keeps tenant b b')
    (hmoves : Moves desired (b.store.tuplesOf tenant) (b'.store.tuplesOf tenant)) :
    Advances l snapshot tenant desired b b' ph (stopped e) :=
  ⟨hkeeps, hmoves, trivial, fun _ => trivial, fun _ => .inr trivial⟩

/-- Opening the store. -/
theorem advances_opening {v : Verdict (Except StoreError String)} {limit : Nat}
    (ha : b.Answers (.call (.openStore tenant) limit) v b') (hstore : b.store.WellFormed)
    (hdesired : l.desiredFrom? snapshot tenant = some desired) :
    Advances l snapshot tenant desired b b' opening
      (afterOpening snapshot (settle .storeLookup settings.pageTimeout .store v)) := by
  obtain ⟨hkeeps, htuples⟩ := ha.keeps tenant hstore rfl
  cases hv : settle .storeLookup settings.pageTimeout .store v with
  | error e => exact .of_stopped hkeeps (htuples ▸ Moves.refl desired _)
  | ok id =>
    have hid := ha.openStore (settle_eq_ok hv) hstore
    exact .of_quiet hkeeps htuples (sound_afterKind hdesired hid rfl) False.elim fun _ =>
      fresh_afterKind id ResourceKind.namespaced _ _

/-- A page of resources. -/
theorem advances_fetching {id : String} {kind : ResourceKind} {kinds : List ResourceKind}
    {token : Option String} {acc : TupleSet} {v : Verdict (Except ListError (Page Resource))}
    (ha : b.Answers (resourcesRequest settings tenant kind token) v b')
    (hstore : b.store.WellFormed) (hshelves : b.lister.shelves = l.shelves)
    (hdesired : l.desiredFrom? snapshot tenant = some desired)
    (hsound : (fetching id kind kinds token acc).Sound l snapshot tenant desired b) :
    Advances l snapshot tenant desired b b' (fetching id kind kinds token acc)
      (afterResources id kind kinds (absorbResources settings snapshot acc token v)) := by
  obtain ⟨hkeeps, htuples⟩ := ha.keeps tenant hstore rfl
  obtain ⟨hid, hleft⟩ := hsound
  have hid' := hkeeps.ids id hid
  cases htaken : absorbResources settings snapshot acc token v with
  | error e => exact .of_stopped hkeeps (htuples ▸ Moves.refl desired _)
  | ok taken =>
    obtain ⟨page, hpage, htaken⟩ := Fallible.bind_eq_ok.1 htaken
    obtain ⟨acc', hfold, hnext⟩ := Fallible.bind_eq_ok.1 htaken
    cases hnext
    obtain ⟨n, hn, rfl⟩ := ha.list (settle_eq_ok hpage)
    rw [Lister.shelf_congr hshelves] at hfold ⊢
    have hleft := hleft n hn
    rcases pageAt_cases (l.shelf ⟨kind, some tenant⟩) n settings.listPageSize with
      ⟨hend, hitems⟩ | ⟨t, ht, hoffset⟩
    · -- After the last page of the kind the other kinds are left.
      rw [← hitems, List.foldlM_append, hfold] at hleft
      rw [hend]
      exact .of_quiet hkeeps htuples (sound_afterKind hdesired hid' hleft) False.elim fun _ =>
        fresh_afterKind id kinds _ _
    · rw [ht]
      refine .of_quiet hkeeps htuples ⟨hid', fun n' hn' => ?_⟩ False.elim fun _ => trivial
      rw [hoffset n' hn']
      rw [← pageAt_items_append _ n settings.listPageSize, List.append_assoc, List.foldlM_append,
        hfold] at hleft
      exact hleft

/-- A page of stored tuples. -/
theorem advances_reading {id : String} {acc actual : TupleSet} {token : Option String}
    {v : Verdict (Except StoreError (Page Tuple))}
    (ha : b.Answers (tuplesRequest settings id token) v b') (hstore : b.store.WellFormed)
    (hdesired : l.desiredFrom? snapshot tenant = some desired)
    (hsound : (reading id acc token actual).Sound l snapshot tenant desired b) :
    Advances l snapshot tenant desired b b' (reading id acc token actual)
      (afterTuples settings id acc (absorbTuples settings actual token v)) := by
  obtain ⟨hkeeps, htuples⟩ := ha.keeps tenant hstore rfl
  obtain ⟨hid, rfl, hactual⟩ := hsound
  have hid' := hkeeps.ids id hid
  have hkeyed := hstore.keyed_tuplesOf tenant
  cases htaken : absorbTuples settings actual token v with
  | error e => exact .of_stopped hkeeps (htuples ▸ Moves.refl acc _)
  | ok taken =>
    obtain ⟨page, hpage, hnext⟩ := Fallible.bind_eq_ok.1 htaken
    cases hnext
    obtain ⟨n, hn, rfl⟩ := ha.read (settle_eq_ok hpage) hstore hid
    have hstill : StillStored acc (b'.store.tuplesOf tenant) (TupleSet.insertTuples actual
        (pageAt (b.store.tuplesOf tenant).values n settings.readPageSize).items) := by
      rw [htuples]
      exact hactual.insertTuples hkeyed fun t => mem_of_mem_pageAt
    rcases pageAt_cases (b.store.tuplesOf tenant).values n settings.readPageSize with
      ⟨hend, hitems⟩ | ⟨t, ht, hoffset⟩
    · -- After the last page a fresh pass has read all that is stored, and nothing else.
      rw [hend]
      refine .of_quiet hkeeps htuples (sound_beforeWriting (Lister.keyed_of_desiredFrom? hdesired)
        hid' hstill) False.elim fun hfresh => ?_
      rw [hfresh n hn, ← TupleSet.ofTuples_append, hitems, List.take_append_drop,
        hkeyed.ofTuples_values]
      exact clears_beforeWriting settings id acc (b.store.tuplesOf tenant)
    · rw [ht]
      refine .of_quiet hkeeps htuples ⟨hid', rfl, hstill⟩ False.elim fun hfresh n' hn' => ?_
      rw [hoffset n' hn', ← take_append_pageAt, TupleSet.ofTuples_append, hfresh n hn]

/-- A write that was applied. -/
private theorem advances_applied {id : String} {acc actual : TupleSet} {total failed failed' : Nat}
    {batch : Batch} {rest : List Batch} (hkeeps : Keeps tenant b b')
    (hsound : (writing id acc actual total (batch :: rest) failed).Sound l snapshot tenant desired b)
    (htuples : b'.store.tuplesOf tenant = batch.applyTo (b.store.tuplesOf tenant))
    (hfailed : failed' = 0 → failed = 0) :
    Advances l snapshot tenant desired b b' (writing id acc actual total (batch :: rest) failed)
      (writing id acc actual total rest failed') := by
  obtain ⟨hid, hagree, hwrites⟩ := hsound
  obtain ⟨hbatch, hrest⟩ := List.forall_mem_cons.1 hagree
  have hmoves := hbatch.moves (b.store.tuplesOf tenant)
  -- What the batch has not deleted is left to the batches after it.
  have hclears : (writing id acc actual total (batch :: rest) failed).Clears desired
      (b.store.tuplesOf tenant) → (writing id acc actual total rest failed').Clears desired
        (batch.applyTo (b.store.tuplesOf tenant)) := by
    intro hclears hnone k hk hd
    have hold := (hmoves.added k hk).resolve_right hd
    obtain ⟨batch', hbatch', hdel⟩ := hclears (hfailed hnone) k hold hd
    rcases List.mem_cons.1 hbatch' with rfl | hbatch'
    · rcases Batch.contains_applyTo.1 hk with ⟨-, hkept⟩ | ⟨t, ht, rfl⟩
      · exact absurd hdel hkept
      · exact absurd (hbatch.1 t ht) hd
    · exact ⟨batch', hbatch', hdel⟩
  refine ⟨hkeeps, ?_, ⟨hkeeps.ids id hid, hrest, fun hnone k hk => ?_⟩, ?_, ?_⟩
  · rw [htuples]
    exact hmoves
  · rw [htuples]
    rcases hwrites (hfailed hnone) k hk with hstored | ⟨batch', hbatch', t, ht, hkey⟩
    · exact .inl (hmoves.kept k hk hstored)
    · rcases List.mem_cons.1 hbatch' with rfl | hbatch'
      · exact .inl (Batch.contains_applyTo.2 (.inr ⟨t, ht, hkey⟩))
      · exact .inr ⟨batch', hbatch', t, ht, hkey⟩
  · rw [htuples]
    exact hclears
  · rw [htuples]
    exact fun hfresh => .inr (hclears hfresh)

/-- After a write call the pass goes on, counts a failure, or stops. -/
private theorem afterWrite_cases (tenant id : String) (acc actual : TupleSet) (total : Nat)
    (rest : List Batch) (failed : Nat) (v : Verdict (Except StoreError Unit)) :
    v = .answered (.ok ()) ∧ afterWrite tenant id acc actual total rest failed v =
        writing id acc actual total rest failed ∨
      afterWrite tenant id acc actual total rest failed v =
        writing id acc actual total rest (failed + 1) ∨
      ∃ e, afterWrite tenant id acc actual total rest failed v = stopped e := by
  cases v with
  | answered r =>
    cases r with
    | ok u => exact .inl ⟨rfl, rfl⟩
    | error e => exact .inr (.inl rfl)
  | timedOut => exact .inr (.inl rfl)
  | cancelled => exact .inr (.inr ⟨_, rfl⟩)

/-- A write call. -/
theorem advances_writing {id : String} {acc actual : TupleSet} {total failed limit : Nat}
    {batch : Batch} {rest : List Batch} {v : Verdict (Except StoreError Unit)}
    (ha : b.Answers (.call (.write id batch) limit) v b') (hstore : b.store.WellFormed)
    (hsound : (writing id acc actual total (batch :: rest) failed).Sound l snapshot tenant desired
      b) :
    Advances l snapshot tenant desired b b' (writing id acc actual total (batch :: rest) failed)
      (afterWrite tenant id acc actual total rest failed v) := by
  obtain ⟨hkeeps, htuples | ⟨htuples, hv⟩⟩ := ha.write hstore hsound.1
  · rcases afterWrite_cases tenant id acc actual total rest failed v with
      ⟨-, heq⟩ | heq | ⟨e, heq⟩
    · rw [heq]
      exact advances_applied hkeeps hsound htuples fun h => h
    · -- The batch was applied, though the pass has heard of a failure.
      rw [heq]
      exact advances_applied hkeeps hsound htuples fun h => absurd h (Nat.succ_ne_zero failed)
    · rw [heq]
      obtain ⟨-, hagree, -⟩ := hsound
      exact .of_stopped hkeeps (htuples ▸ (hagree batch List.mem_cons_self).moves _)
  · rcases afterWrite_cases tenant id acc actual total rest failed v with
      ⟨hok, -⟩ | heq | ⟨e, heq⟩
    · exact absurd hok hv
    · -- The failure is counted, and nothing is claimed of a pass that has failed in a part.
      rw [heq]
      obtain ⟨hid, hagree, -⟩ := hsound
      have hnone : ¬ failed + 1 = 0 := Nat.succ_ne_zero failed
      exact .of_quiet hkeeps htuples ⟨hkeeps.ids id hid, (List.forall_mem_cons.1 hagree).2,
        fun h => absurd h hnone⟩ (fun _ h => absurd h hnone) fun _ h => absurd h hnone
    · rw [heq]
      exact .of_stopped hkeeps (htuples ▸ Moves.refl desired _)

/-- However its question is answered, a pass advances to another phase. -/
theorem step {q : Request} {next : q.Answer → Script Request Request.Answer
      (Except PassError TenantReport)} {a : q.Answer} (hdry : settings.dryRun = false)
    (hstore : b.store.WellFormed) (hshelves : b.lister.shelves = l.shelves)
    (hdesired : l.desiredFrom? snapshot tenant = some desired)
    (hhead : (ph.script settings snapshot tenant).head = .ask q next) (ha : b.Answers q a b')
    (hsound : ph.Sound l snapshot tenant desired b) :
    ∃ ph', next a = ph'.script settings snapshot tenant ∧
      Advances l snapshot tenant desired b b' ph ph' := by
  -- One case for each phase, whose head tells the question.
  cases ph with
  | opening =>
    rw [head_opening hdry] at hhead
    cases hhead
    exact ⟨_, rfl, advances_opening ha hstore hdesired⟩
  | fetching id kind kinds token acc =>
    rw [head_fetching] at hhead
    cases hhead
    exact ⟨_, rfl, advances_fetching ha hstore hshelves hdesired hsound⟩
  | reading id acc token actual =>
    rw [head_reading] at hhead
    cases hhead
    exact ⟨_, rfl, advances_reading ha hstore hdesired hsound⟩
  | writing id acc actual total rest failed =>
    cases rest with
    | nil => cases failed <;> cases hhead
    | cons batch rest =>
      rw [head_writing] at hhead
      cases hhead
      exact ⟨_, rfl, advances_writing ha hstore hsound⟩
  | stopped e => cases hhead

end Phase

end PolicySync.Pass
