import PolicySync.Proofs.Memory.Backends
import PolicySync.Proofs.Memory.Paging

/-!
# What is on the shelves of a lister

The shelves of a lister are the outcome of its edits. `Lister.standing` reads off the edits themselves
which resources stand on a shelf: those that were put there and have neither been replaced nor removed
since, in the order in which they were put. A lister keeps just these (`shelf_edited`), and whoever
follows the tokens of its pages gets them all, each once (`listings_complete`). The same goes for the
pages of a store.
-/

namespace PolicySync

/-- The shelf that a resource is listed on. -/
def Resource.shelf (r : Resource) : Memory.Shelf := ⟨r.kind, r.listedUnder⟩

namespace Memory

namespace Lister

/-- A change of the resources of a lister. -/
inductive Edit where
  | upsert (r : Resource)
  | remove (s : Shelf) (name : String)

/-- A lister after a change. -/
def edit (l : Lister) : Edit → Lister
  | .upsert r => l.upsert r
  | .remove s name => l.remove s name

/-- An empty lister after some changes. -/
def edited (edits : List Edit) : Lister := edits.foldl edit {}

/-- A change replaces or removes the resource of a name on a shelf. -/
def Edit.Concerns (s : Shelf) (name : String) : Edit → Prop
  | .upsert r => r.shelf = s ∧ name = r.name
  | .remove s' name' => s' = s ∧ name = name'

instance (s : Shelf) (name : String) : DecidablePred (Edit.Concerns s name) := fun e =>
  match e with
  | .upsert r => inferInstanceAs (Decidable (r.shelf = s ∧ name = r.name))
  | .remove s' name' => inferInstanceAs (Decidable (s' = s ∧ name = name'))

/-- The resources that were put on a shelf and that no later change concerns, in the order in which
they were put there. -/
def standing (s : Shelf) : List Edit → List Resource
  | [] => []
  | .upsert r :: later =>
    if r.shelf = s ∧ ∀ e ∈ later, ¬ e.Concerns s r.name then r :: standing s later
    else standing s later
  | .remove _ _ :: later => standing s later

variable {l : Lister} {s : Shelf} {r : Resource} {name : String} {edits : List Edit}

/-! ## One change -/

/-- Only the shelf that is set changes. -/
theorem lookup_setShelf (shelves : List (Shelf × List Resource)) (s s' : Shelf) (rs : List Resource) :
    (setShelf s rs shelves).lookup s' = if s' = s then some rs else shelves.lookup s' := by
  -- The first place of a shelf is set, or a new one at the end.
  induction shelves with
  | nil =>
    rw [setShelf, List.lookup_cons, List.lookup_nil]
    by_cases hs : s' = s
    · simp [hs]
    · simp [beq_false_of_ne hs, hs]
  | cons e shelves ih =>
    rw [setShelf]
    split
    · next heq =>
      subst heq
      by_cases hs : s' = e.1
      · simp [hs]
      · rw [List.lookup_cons, List.lookup_cons, beq_false_of_ne hs, if_neg hs]
    · next hne =>
      rw [List.lookup_cons, List.lookup_cons, ih]
      by_cases hs : s' = e.1
      · simp [hs, hne]
      · simp [beq_false_of_ne hs]

/-- A resource takes the place of the one with its name on its shelf. -/
theorem shelf_upsert (l : Lister) (r : Resource) (s : Shelf) : (l.upsert r).shelf s =
    if s = r.shelf then (l.shelf s).filter (·.name != r.name) ++ [r] else l.shelf s := by
  show ((setShelf r.shelf _ l.shelves).lookup s).getD [] = _
  rw [lookup_setShelf]
  split
  · next hs =>
    subst hs
    rfl
  · rfl

/-- A removal takes one name off one shelf. -/
theorem shelf_remove (l : Lister) (s' : Shelf) (name : String) (s : Shelf) : (l.remove s' name).shelf s =
    if s = s' then (l.shelf s).filter (·.name != name) else l.shelf s := by
  unfold remove
  split
  · show ((setShelf s' _ l.shelves).lookup s).getD [] = _
    rw [lookup_setShelf]
    split
    · next hs =>
      subst hs
      rfl
    · rfl
  -- A shelf that is not there is empty, and nothing is taken off it.
  · next hnone =>
    split
    · next hs =>
      subst hs
      have hempty : l.shelf s = [] := by
        rw [shelf, Option.not_isSome_iff_eq_none.1 hnone]
        rfl
      rw [hempty]
      rfl
    · rfl

/-- What a change puts on a shelf. -/
def Edit.placed (s : Shelf) : Edit → List Resource
  | .upsert r => if r.shelf = s then [r] else []
  | .remove _ _ => []

/-- A change takes off a shelf what it concerns, and puts its resource at the end. -/
theorem shelf_edit (l : Lister) (e : Edit) (s : Shelf) : (l.edit e).shelf s =
    (l.shelf s).filter (fun r => ¬ e.Concerns s r.name) ++ e.placed s := by
  cases e with
  | upsert r =>
    rw [edit, shelf_upsert]
    by_cases hs : s = r.shelf
    · subst hs
      simp [Edit.placed, Edit.Concerns, bne, beq_eq_decide]
    · simp [Edit.placed, Edit.Concerns, Ne.symm hs, hs]
  | remove s' name =>
    rw [edit, shelf_remove]
    by_cases hs : s = s'
    · subst hs
      simp [Edit.placed, Edit.Concerns, bne, beq_eq_decide]
    · simp [Edit.placed, Edit.Concerns, Ne.symm hs, hs]

/-! ## Many changes -/

/-- A further change takes away what it concerns, and adds what it puts on the shelf. -/
theorem standing_append (s : Shelf) (edits : List Edit) (e : Edit) : standing s (edits ++ [e]) =
    (standing s edits).filter (fun r => ¬ e.Concerns s r.name) ++ e.placed s := by
  induction edits with
  | nil =>
    cases e with
    | upsert r => simp [standing, Edit.placed]
    | remove s' name => rfl
  | cons first edits ih =>
    cases first with
    | remove s' name => exact ih
    | upsert r =>
      rw [List.cons_append, standing, standing, ih]
      -- An edit that stood until now stands on unless the new one is about the same resource.
      by_cases hlast : r.shelf = s ∧ ∀ e ∈ edits, ¬ e.Concerns s r.name
      · rw [if_pos hlast]
        by_cases he : e.Concerns s r.name
        · simp [he]
        · simpa [he, hlast.1] using hlast.2
      · rw [if_neg hlast, if_neg fun h => hlast ⟨h.1, fun e he => h.2 e (by simp [he])⟩]

/-- A lister keeps on a shelf what its changes have left standing there. -/
theorem shelf_edited (edits : List Edit) (s : Shelf) : (edited edits).shelf s = standing s edits := by
  induction edits using List.reverseRecOn with
  | nil => rfl
  | append_singleton edits e ih =>
    have hstep : edited (edits ++ [e]) = (edited edits).edit e := by simp [edited]
    rw [hstep, shelf_edit, standing_append, ih]

/-- A resource stands on a shelf when it was put there and nothing later concerns it. -/
theorem mem_standing : r ∈ standing s edits ↔ r.shelf = s ∧
    ∃ earlier later, edits = earlier ++ .upsert r :: later ∧ ∀ e ∈ later, ¬ e.Concerns s r.name := by
  induction edits with
  | nil => simp [standing]
  | cons e edits ih =>
    -- The change that puts it there is the first one or a later one.
    have hfirst : (∃ earlier later, e :: edits = earlier ++ .upsert r :: later ∧
          ∀ e ∈ later, ¬ e.Concerns s r.name) ↔
        (e = .upsert r ∧ ∀ e ∈ edits, ¬ e.Concerns s r.name) ∨
          ∃ earlier later, edits = earlier ++ .upsert r :: later ∧
            ∀ e ∈ later, ¬ e.Concerns s r.name := by
      constructor
      · rintro ⟨earlier, later, heq, hlater⟩
        cases earlier with
        | nil =>
          obtain ⟨rfl, rfl⟩ := List.cons.inj heq
          exact .inl ⟨rfl, hlater⟩
        | cons e' earlier =>
          obtain ⟨rfl, rfl⟩ := List.cons.inj heq
          exact .inr ⟨earlier, later, rfl, hlater⟩
      · rintro (⟨rfl, hlater⟩ | ⟨earlier, later, rfl, hlater⟩)
        · exact ⟨[], edits, rfl, hlater⟩
        · exact ⟨e :: earlier, later, rfl, hlater⟩
    rw [hfirst, and_or_left, ← ih]
    cases e with
    | remove s' name => simp [standing]
    | upsert r' =>
      rw [standing, Edit.upsert.injEq]
      split
      · next hlast =>
        rw [List.mem_cons]
        refine or_congr_left ⟨?_, fun h => h.2.1.symm⟩
        rintro rfl
        exact ⟨hlast.1, rfl, hlast.2⟩
      · next hnot =>
        refine (or_iff_right ?_).symm
        rintro ⟨hshelf, rfl, hlater⟩
        exact hnot ⟨hshelf, hlater⟩

/-- The resources on a shelf have different names. -/
theorem nodup_standing (s : Shelf) (edits : List Edit) : ((standing s edits).map (·.name)).Nodup := by
  induction edits with
  | nil => exact .nil
  | cons e edits ih =>
    cases e with
    | remove s' name => exact ih
    | upsert r =>
      rw [standing]
      split
      · next hlast =>
        refine List.nodup_cons.2 ⟨fun hmem => ?_, ih⟩
        obtain ⟨r', hr', hname⟩ := List.mem_map.1 hmem
        obtain ⟨hshelf, earlier, later, rfl, -⟩ := mem_standing.1 hr'
        exact hlast.2 (.upsert r') (by simp) ⟨hshelf, hname.symm⟩
      · exact ih

/-! ## Pages -/

/-- The lister hands out a shelf page by page. -/
theorem handsOut_shelf (l : Lister) (s : Shelf) (limit : Nat) :
    HandsOut (fun token (l : Lister) => l.list s limit token) (l.shelf s) limit l := by
  refine handsOut_of_pageAt (fun l' => l'.shelf s = l.shelf s) ?_ rfl
  intro token n l' htoken hl'
  refine ⟨{ l' with listings := l'.listings + 1 }, hl', ?_⟩
  rw [list, htoken, ← hl']

end Lister

/-- A store hands out its tuples in the same way. -/
theorem Store.handsOut_read {store : Store} {id : String} {tuples : TupleSet}
    (h : store.contents.get? id = some tuples) (limit : Nat) :
    HandsOut (fun token (store : Store) => (store.read id limit token, store)) tuples.values limit
      store := by
  refine handsOut_of_pageAt (· = store) ?_ rfl
  rintro token n _ htoken rfl
  refine ⟨_, rfl, ?_⟩
  rw [read, htoken]
  simp only [h]

/-- After any changes a lister hands out each shelf: the latest version of every resource that was put
there and has not been removed since, each under a name of its own and in the order in which they were
put. A global role belongs on the shelf without a namespace. A store hands out its tuples in the order
of their keys. -/
theorem listings_complete (limit : Nat) :
    (∀ edits s, HandsOut (fun token (l : Lister) => l.list s limit token) (Lister.standing s edits)
        limit (Lister.edited edits) ∧
      ((Lister.standing s edits).map (·.name)).Nodup ∧
      ∀ r, r ∈ Lister.standing s edits ↔ r.shelf = s ∧ ∃ earlier later,
        edits = earlier ++ .upsert r :: later ∧ ∀ e ∈ later, ¬ e.Concerns s r.name) ∧
    (∀ r : Resource, r.kind = .globalRole → r.shelf = ⟨.globalRole, none⟩) ∧
    ∀ (store : Store) id tuples, store.contents.get? id = some tuples →
      HandsOut (fun token (store : Store) => (store.read id limit token, store)) tuples.values limit
        store := by
  refine ⟨fun edits s => ⟨?_, Lister.nodup_standing s edits, fun r => Lister.mem_standing⟩,
    fun r hr => ?_, fun store id tuples h => Store.handsOut_read h limit⟩
  · rw [← Lister.shelf_edited]
    exact Lister.handsOut_shelf _ s limit
  · simp [Resource.shelf, Resource.listedUnder, hr, ResourceKind.clusterScoped]

/-- Of five changes one replaces a folder and one removes another, which leaves two folders on two
pages. -/
theorem listings_complete_office :
    let folder (name : String) (parent : Option String) : Resource :=
      { metadata := { name, tenant := some "office" }, spec := .folder parent }
    let edits : List Lister.Edit := [.upsert (folder "a" none), .upsert (folder "b" (some "a")),
      .upsert (folder "c" none), .upsert (folder "a" (some "top")),
      .remove ⟨.folder, some "office"⟩ "c"]
    (∃ pages l', PageWalk (fun token (l : Lister) => l.list ⟨.folder, some "office"⟩ 0 token) none
        (Lister.edited edits) pages (.ok ()) l' ∧ pages.length = 2 ∧
      pages.flatMap (·.items) = [folder "b" (some "a"), folder "a" (some "top")]) ∧
    ∃ page, Backends.office.store.read "store-001" 0 (some "007") = .ok page ∧ page.items = [] := by
  intro folder edits
  obtain ⟨hlister, -, hstore⟩ := listings_complete 0
  constructor
  · obtain ⟨pages, l', hwalk, hlength, hitems⟩ :=
      (hlister edits ⟨.folder, some "office"⟩).1.walk (by decide)
    exact ⟨pages, l', hwalk, hlength.trans (by decide), hitems⟩
  · have hget : Backends.office.store.contents.get? "store-001" =
        some (Backends.office.store.tuplesOf "north") := rfl
    have hdigits : Text.IsNumeral "007" := ⟨by decide, by simp⟩
    obtain ⟨page, hpage, hitems⟩ := (hstore _ _ _ hget).numeral "007" hdigits (by decide)
    exact ⟨page, hpage, hitems⟩

end Memory

end PolicySync
