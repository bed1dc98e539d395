import PolicySync.Proofs.Memory.Backends
import PolicySync.Proofs.Memory.Desired
import PolicySync.Proofs.Pass.Pages

/-!
# What a pass reads

Against backends in memory, the parts of a pass that read find what is there: the snapshot of the
listed global roles (`reads_refreshSnapshot`), the tuples that the tenant's resources ask for
(`reads_desiredTuples`), and the stored tuples (`reads_actualTuples`).
-/

namespace PolicySync.Pass

open Memory

variable {settings : PassSettings} {tenant : String} {snapshot : Snapshot}

/-! ## Resources -/

/-- The pages of a shelf, whatever is done with its resources. -/
theorem lists_shelf (b : Backends) (kind : ResourceKind) (space : Option String) (limit time : Nat)
    {σ : Type} (take : σ → Resource → Except PassError σ) :
    Lists Backends.answer b.Same (b.lister.shelf ⟨kind, space⟩) limit
      (fun token => .call (.list kind space limit token) time)
      (fun acc _ answer => do
        let page ← settle .listPage time .list answer
        return (← page.items.foldlM take acc, nextToken page.next)) take where
  keeps hb token := hb.trans (Backends.same_call_list _ kind space limit token)
  -- While it is read, the shelf stays as it is.
  page {b'} hb token n htoken acc := by
    have hanswer : (Backends.answer (.call (.list kind space limit token) time) b').1 =
        .answered (.ok (pageAt (b.lister.shelf ⟨kind, space⟩) n limit)) := by
      rw [Backends.answer, Backends.call_list_of_ok htoken, Lister.shelf_congr hb.shelves]
    rw [hanswer]
    show ((pageAt (b.lister.shelf ⟨kind, space⟩) n limit).items.foldlM take acc >>= fun acc' =>
      pure (acc', nextToken (pageAt (b.lister.shelf ⟨kind, space⟩) n limit).next)) = _
    rw [bind_pure_comp]
    rfl
  refused {b'} hb token detail htoken acc := by
    refine ⟨.list (.backend kind detail), ?_⟩
    have hanswer : (Backends.answer (.call (.list kind space limit token) time) b').1 =
        .answered (.error (.backend kind detail)) := by
      rw [Backends.answer, Backends.call_list_of_error htoken]
    rw [hanswer]
    rfl

/-- The shelf of a kind can be read to its end. -/
def ShelfFits (settings : PassSettings) (l : Lister) (s : Shelf) : Prop :=
  TokensFit 0 (l.shelf s).length settings.listPageSize

/-- The global roles can be read to the end and have a snapshot. -/
def HasSnapshot (settings : PassSettings) (l : Lister) (snapshot : Snapshot) : Prop :=
  ShelfFits settings l ⟨.globalRole, none⟩ ∧
    ∃ roles, (l.shelf ⟨.globalRole, none⟩).foldlM Snapshot.addRole SortedMap.empty = .ok roles ∧
      Snapshot.ofRoles roles = .ok snapshot

/-- What has a snapshot has that one. -/
theorem HasSnapshot.snapshot? {l : Lister} (h : HasSnapshot settings l snapshot) :
    l.snapshot? = some snapshot := by
  obtain ⟨-, roles, hroles, hsnapshot⟩ := h
  rw [Lister.roles_of_foldlM hroles] at hsnapshot
  exact Lister.snapshot?_of_ofRoles hsnapshot

/-- It depends on the shelves only. -/
theorem HasSnapshot.congr {l l' : Lister} (h : HasSnapshot settings l snapshot)
    (hshelves : l'.shelves = l.shelves) : HasSnapshot settings l' snapshot := by
  unfold HasSnapshot ShelfFits at h ⊢
  rw [Lister.shelf_congr hshelves]
  exact h

/-- Refreshing the snapshot finds that of the listed roles. -/
theorem reads_refreshSnapshot (settings : PassSettings) (b : Backends) :
    Reads Backends.answer b.Same (refreshSnapshot settings) (HasSnapshot settings b.lister) := by
  have hroles : Reads Backends.answer b.Same (globalRoles settings) _ :=
    (lists_shelf b .globalRole none settings.listPageSize settings.pageTimeout
      Snapshot.addRole).reads SortedMap.empty
  have hbuild : Reads Backends.answer b.Same (buildSnapshot settings) _ :=
    hroles.andThen fun roles => reads_of (Snapshot.ofRoles roles)
  -- Publishing is not a call, so the backends stay as they are.
  have hpublish : ∀ snapshot, Reads Backends.answer b.Same
      (.ask (.publish snapshot) fun _ => of (.ok snapshot)) fun s => s = snapshot := by
    intro snapshot
    constructor
    · intro b₁ b₂ s hb hends
      obtain ⟨hs, rfl⟩ := ends_of.1 (Script.ends_ask.1 hends)
      cases hs
      exact ⟨hb, rfl⟩
    · rintro b₁ s hb rfl
      exact ⟨b₁, Script.ends_ask.2 (ends_of.2 ⟨rfl, rfl⟩)⟩
  refine (hbuild.andThen hpublish).congr fun s => ?_
  constructor
  · rintro ⟨s', ⟨roles, ⟨hfits, hroles⟩, hs⟩, rfl⟩
    exact ⟨hfits, roles, hroles, hs⟩
  · rintro ⟨hfits, roles, hroles, hs⟩
    exact ⟨s, ⟨roles, ⟨hfits, hroles⟩, hs⟩, rfl⟩

/-- Going through several kinds finds what the tenant's resources of these kinds ask for. -/
theorem reads_desiredOfKinds (settings : PassSettings) (tenant : String) (snapshot : Snapshot)
    (b : Backends) (kinds : List ResourceKind) (desired : TupleSet) :
    Reads Backends.answer b.Same (desiredOfKinds settings tenant snapshot kinds desired) fun out =>
      (∀ kind ∈ kinds, ShelfFits settings b.lister ⟨kind, some tenant⟩) ∧
        (kinds.flatMap fun kind => b.lister.shelf ⟨kind, some tenant⟩).foldlM
          (addDesired snapshot.resolved) desired = .ok out := by
  induction kinds generalizing desired with
  | nil =>
    refine (reads_of (.ok desired)).congr fun out => ?_
    simp [pure, Except.pure]
  | cons kind kinds ih =>
    have hkind : Reads Backends.answer b.Same
        (desiredOfKind settings tenant snapshot kind desired) _ :=
      (lists_shelf b kind (some tenant) settings.listPageSize settings.pageTimeout
        (addDesired snapshot.resolved)).reads desired
    refine (hkind.andThen ih).congr fun out => ?_
    rw [List.flatMap_cons, List.foldlM_append, Fallible.bind_eq_ok, List.forall_mem_cons]
    constructor
    · rintro ⟨mid, ⟨hfits, hmid⟩, hrest, hout⟩
      exact ⟨⟨hfits, hrest⟩, mid, hmid, hout⟩
    · rintro ⟨⟨hfits, hrest⟩, mid, hmid, hout⟩
      exact ⟨mid, ⟨hfits, hmid⟩, hrest, hout⟩

/-- The tenant's resources can be read to the end and ask for these tuples. -/
def AskFor (settings : PassSettings) (l : Lister) (snapshot : Snapshot) (tenant : String)
    (desired : TupleSet) : Prop :=
  (∀ kind ∈ ResourceKind.namespaced, ShelfFits settings l ⟨kind, some tenant⟩) ∧
    (l.resourcesOf tenant).foldlM (addDesired snapshot.resolved)
      (TupleSet.ofTuples snapshot.tuples) = .ok desired

/-- What is asked for is what is desired. -/
theorem AskFor.desiredFrom? {l : Lister} {desired : TupleSet}
    (h : AskFor settings l snapshot tenant desired) :
    l.desiredFrom? snapshot tenant = some desired :=
  Lister.desiredFrom?_of_foldlM h.2

/-- That depends on the shelves only. -/
theorem AskFor.congr {l l' : Lister} {desired : TupleSet}
    (h : AskFor settings l snapshot tenant desired) (hshelves : l'.shelves = l.shelves) :
    AskFor settings l' snapshot tenant desired := by
  unfold AskFor ShelfFits Lister.resourcesOf at h ⊢
  rw [Lister.shelf_congr hshelves]
  exact h

/-- The desired tuples are what the tenant's resources ask for. -/
theorem reads_desiredTuples (settings : PassSettings) (tenant : String) (snapshot : Snapshot)
    (b : Backends) :
    Reads Backends.answer b.Same (desiredTuples settings tenant snapshot)
      (AskFor settings b.lister snapshot tenant) :=
  reads_desiredOfKinds settings tenant snapshot b _ _

/-! ## Stored tuples -/

/-- Tuples that are taken in one by one are put in together. -/
theorem foldlM_insert (s : TupleSet) (ts : List Tuple) :
    ts.foldlM (fun s t => (.ok (s.insert t.key t) : Except PassError TupleSet)) s =
      .ok (TupleSet.insertTuples s ts) := by
  rw [TupleSet.insertTuples, SortedMap.insertMany, List.foldl_map]
  exact List.foldlM_pure

/-- The pages of a store. -/
theorem lists_tuples {b : Backends} {id : String} {tuples : TupleSet}
    (h : b.store.contents.get? id = some tuples) (limit time : Nat) :
    Lists Backends.answer b.Same tuples.values limit
      (fun token => .call (.read id limit token) time)
      (fun actual _ answer => do
        let page ← settle .readPage time .store answer
        return (TupleSet.insertTuples actual page.items, nextToken page.next))
      (fun actual t => .ok (actual.insert t.key t)) where
  keeps hb _ := hb
  page {b'} hb token n htoken acc := by
    have hanswer : (Backends.answer (.call (.read id limit token) time) b').1 =
        .answered (.ok (pageAt tuples.values n limit)) := by
      rw [Backends.answer, Backends.call, Store.read, htoken, hb.store]
      simp only [h]
    rw [hanswer, foldlM_insert]
    rfl
  refused {b'} hb token detail htoken acc := by
    refine ⟨.store (.invalidResponse detail), ?_⟩
    have hanswer : (Backends.answer (.call (.read id limit token) time) b').1 =
        .answered (.error (.invalidResponse detail)) := by
      rw [Backends.answer, Backends.call, Store.read, htoken]
    rw [hanswer]
    rfl

/-- The actual tuples are the stored ones. -/
theorem reads_actualTuples (settings : PassSettings) {b : Backends} {id : String}
    {tuples : TupleSet} (h : b.store.contents.get? id = some tuples) (hkeyed : tuples.Keyed) :
    Reads Backends.answer b.Same (actualTuples settings id) fun out =>
      TokensFit 0 tuples.size settings.readPageSize ∧ out = tuples := by
  refine ((lists_tuples h settings.readPageSize settings.pageTimeout).reads
    SortedMap.empty).congr fun out => ?_
  have hall : TupleSet.insertTuples SortedMap.empty tuples.values = tuples := hkeyed.ofTuples_values
  rw [foldlM_insert, hall, SortedMap.length_values, Except.ok.injEq, eq_comm]

end PolicySync.Pass
