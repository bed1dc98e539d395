import PolicySync.Proofs.Pass.Soundness
import Mathlib.Logic.Relation

/-!
# Passes of one tenant beside each other

A `Crowd` is any number of passes of one tenant that share the backends; a step answers the question
of any one of them, in any of the ways in which it can be answered. Pages that a pass reads while
another one writes can skip and repeat tuples, so most passes write the difference to a set that never
was stored. All the same no desired tuple is lost and no other one comes in, and once all passes have
ended well the stored keys are the desired ones (`crowd_aligns`).

The reason is that the first pass to change anything has read the store as it was, since nobody has
written before it. It deletes all that is not desired, and no other pass brings any of that back.
-/

namespace PolicySync

open Memory Backends Pass

/-- Passes of one tenant and the backends that they share. -/
structure Crowd where
  passes : List (Pass TenantReport)
  backends : Backends

namespace Crowd

/-- Passes before their first step, each with settings of its own. -/
def start (settings : List PassSettings) (snapshot : Snapshot) (tenant : String) (b : Backends) :
    Crowd where
  passes := settings.map fun s => reconcileTenant s snapshot tenant
  backends := b

/-- One of the passes has its question answered. -/
inductive Step : Crowd → Crowd → Prop where
  | answer {c : Crowd} {i : Nat} {p : Pass TenantReport} {q : Request}
      {next : q.Answer → Pass TenantReport} {a : q.Answer} {b : Backends}
      (hp : c.passes[i]? = some p) (hq : p.head = .ask q next) (ha : c.backends.Answers q a b) :
      Step c { passes := c.passes.set i (next a), backends := b }

/-- The passes are in phases that they can rely on. Either nothing has changed, and all of them have
read the store as it is, or one of them clears it. -/
structure Inv (l : Lister) (snapshot : Snapshot) (tenant : String) (desired initial : TupleSet)
    (phases : List (PassSettings × Phase)) (c : Crowd) : Prop where
  passes : c.passes = phases.map fun e => e.2.script e.1 snapshot tenant
  dry : ∀ e ∈ phases, e.1.dryRun = false
  shelves : c.backends.lister.shelves = l.shelves
  store : c.backends.store.WellFormed
  moves : Moves desired initial (c.backends.store.tuplesOf tenant)
  sound : ∀ e ∈ phases, e.2.Sound l snapshot tenant desired c.backends
  cleared : c.backends.store.tuplesOf tenant = initial ∧ (∀ e ∈ phases, e.2.Fresh desired initial) ∨
    ∃ e ∈ phases, e.2.Clears desired (c.backends.store.tuplesOf tenant)

variable {l : Lister} {snapshot : Snapshot} {tenant : String} {desired initial : TupleSet}
  {phases : List (PassSettings × Phase)} {c c' : Crowd}

/-- The invariant holds at the start. -/
theorem inv_start {settings : List PassSettings} {b : Backends} (hstore : b.store.WellFormed)
    (hdry : ∀ s ∈ settings, s.dryRun = false) :
    Inv b.lister snapshot tenant desired (b.store.tuplesOf tenant)
      (settings.map fun s => (s, .opening)) (start settings snapshot tenant b) where
  passes := by
    rw [List.map_map]
    rfl
  dry := by
    rw [List.forall_mem_map]
    exact hdry
  shelves := rfl
  store := hstore
  moves := .refl _ _
  sound := by
    rw [List.forall_mem_map]
    exact fun _ _ => trivial
  cleared := by
    rw [List.forall_mem_map]
    exact .inl ⟨rfl, fun _ _ => trivial⟩

/-- After a step still nothing has changed, or some pass clears the store. -/
private theorem Inv.cleared_step (h : Inv l snapshot tenant desired initial phases c) {i : Nat}
    {e : PassSettings × Phase} (he : phases[i]? = some e) {ph' : Phase} {b : Backends}
    (hadvances : Phase.Advances l snapshot tenant desired c.backends b e.2 ph') :
    b.store.tuplesOf tenant = initial ∧
        (∀ x ∈ phases.set i (e.1, ph'), x.2.Fresh desired initial) ∨
      ∃ x ∈ phases.set i (e.1, ph'), x.2.Clears desired (b.store.tuplesOf tenant) := by
  have hnew : (e.1, ph') ∈ phases.set i (e.1, ph') :=
    List.mem_set (List.getElem?_eq_some_iff.1 he).1 _
  rcases h.cleared with ⟨hsame, hfresh⟩ | ⟨x, hx, hclears⟩
  · have hfresh₀ := hfresh e (List.mem_of_getElem? he)
    rcases hadvances.fresh (hsame ▸ hfresh₀) with ⟨hsame', hfresh'⟩ | hclears
    · have hinitial : b.store.tuplesOf tenant = initial := hsame'.trans hsame
      refine .inl ⟨hinitial, fun x hx => ?_⟩
      rcases List.mem_or_eq_of_mem_set hx with hx | rfl
      · exact hfresh x hx
      · exact hinitial ▸ hfresh'
    · -- The first pass to change the store has read it as it was.
      exact .inr ⟨_, hnew, hclears⟩
  · -- The pass that clears the store has moved itself, or it does so still.
    obtain ⟨j, hj⟩ := List.getElem?_of_mem hx
    by_cases hij : i = j
    · subst hij
      rw [he] at hj
      obtain rfl : e = x := Option.some.inj hj
      exact .inr ⟨_, hnew, hadvances.clears hclears⟩
    · refine .inr ⟨x, ?_, hclears.mono hadvances.moves⟩
      apply List.mem_of_getElem?
      rw [List.getElem?_set_ne hij, hj]

/-- One step keeps the invariant. -/
theorem Inv.step (h : Inv l snapshot tenant desired initial phases c)
    (hdesired : l.desiredFrom? snapshot tenant = some desired) (hstep : Step c c') :
    ∃ phases', phases'.length = phases.length ∧
      Inv l snapshot tenant desired initial phases' c' := by
  obtain @⟨i, p, q, next, a, b, hp, hq, ha⟩ := hstep
  -- The pass that moves is in one of the phases and comes to another.
  rw [h.passes, List.getElem?_map, Option.map_eq_some_iff] at hp
  obtain ⟨e, he, rfl⟩ := hp
  have hmem : e ∈ phases := List.mem_of_getElem? he
  obtain ⟨ph', hnext, hadvances⟩ := Phase.step (h.dry e hmem) h.store h.shelves hdesired hq ha
    (h.sound e hmem)
  refine ⟨phases.set i (e.1, ph'), List.length_set, ?_, ?_, hadvances.keeps.shelves.trans h.shelves,
    hadvances.keeps.store, h.moves.trans hadvances.moves, ?_, h.cleared_step he hadvances⟩
  · rw [h.passes, hnext, List.map_set]
  · intro x hx
    rcases List.mem_or_eq_of_mem_set hx with hx | rfl
    · exact h.dry x hx
    · exact h.dry e hmem
  · intro x hx
    rcases List.mem_or_eq_of_mem_set hx with hx | rfl
    · exact (h.sound x hx).mono hadvances.keeps hadvances.moves
    · exact hadvances.sound

/-- Every run keeps the invariant. -/
theorem Inv.run (h : Inv l snapshot tenant desired initial phases c)
    (hdesired : l.desiredFrom? snapshot tenant = some desired)
    (hrun : Relation.ReflTransGen Step c c') :
    ∃ phases', phases'.length = phases.length ∧
      Inv l snapshot tenant desired initial phases' c' := by
  induction hrun with
  | refl => exact ⟨phases, rfl, h⟩
  | tail _ hstep ih =>
    obtain ⟨phases', hlength, h'⟩ := ih
    obtain ⟨phases'', hlength', h''⟩ := h'.step hdesired hstep
    exact ⟨phases'', hlength'.trans hlength, h''⟩

/-- Passes that have all ended well, one at least, have left the desired keys. -/
theorem Inv.contains_iff (h : Inv l snapshot tenant desired initial phases c)
    (hsome : phases ≠ []) (hended : ∀ p ∈ c.passes, ∃ report, p.head = .done (.ok report))
    (k : TupleKey) :
    (c.backends.store.tuplesOf tenant).contains k = true ↔ desired.contains k = true := by
  have hwritten : ∀ e ∈ phases, ∃ id acc actual total, e.2 = .writing id acc actual total [] 0 := by
    intro e he
    have hp : e.2.script e.1 snapshot tenant ∈ c.passes := by
      rw [h.passes]
      exact List.mem_map.2 ⟨e, he, rfl⟩
    obtain ⟨report, hdone⟩ := hended _ hp
    exact Phase.eq_writing_of_head_done (h.dry e he) hdone
  obtain ⟨e, he⟩ := List.exists_mem_of_ne_nil phases hsome
  constructor
  · intro hk
    by_contra hd
    -- Some pass clears the store, and it has no batch left.
    have hclears : ∃ e ∈ phases, e.2.Clears desired (c.backends.store.tuplesOf tenant) := by
      rcases h.cleared with ⟨hsame, hfresh⟩ | hclears
      · obtain ⟨id, acc, actual, total, hph⟩ := hwritten e he
        have hfresh' := hfresh e he
        rw [hph] at hfresh'
        exact ⟨e, he, by rw [hph, hsame]; exact hfresh'⟩
      · exact hclears
    obtain ⟨x, hx, hclears⟩ := hclears
    obtain ⟨id, acc, actual, total, hph⟩ := hwritten x hx
    rw [hph] at hclears
    obtain ⟨batch, hbatch, -⟩ := hclears rfl k hk hd
    exact absurd hbatch List.not_mem_nil
  · intro hd
    obtain ⟨id, acc, actual, total, hph⟩ := hwritten e he
    have hsound := h.sound e he
    rw [hph] at hsound
    obtain ⟨-, -, hwrites⟩ := hsound
    rcases hwrites rfl k hd with hstored | ⟨batch, hbatch, -⟩
    · exact hstored
    · exact absurd hbatch List.not_mem_nil

/-- The pass at a position has its question answered in time. -/
def turn (c : Crowd) (i : Nat) : Crowd :=
  match c.passes[i]? with
  | none => c
  | some p =>
    match p.head with
    | .done _ => c
    | .ask q next =>
      { passes := c.passes.set i (next (answer q c.backends).1), backends := (answer q c.backends).2 }

/-- Turns, one after the other, are a run. -/
theorem run_turns (c : Crowd) (turns : List Nat) :
    Relation.ReflTransGen Step c (turns.foldl turn c) := by
  induction turns generalizing c with
  | nil => exact .refl
  | cons i turns ih =>
    refine .trans ?_ (ih (c.turn i))
    unfold turn
    split
    · exact .refl
    · next p hp =>
      split
      · exact .refl
      · next q next hq => exact .single (.answer hp hq (.heard q))

/-- Whether all passes have ended well. -/
def endedWell (c : Crowd) : Bool :=
  c.passes.all fun p =>
    match p.head with
    | .done (.ok _) => true
    | _ => false

/-- Every pass of a crowd that has ended well has a report. -/
theorem of_endedWell (h : c.endedWell = true) : ∀ p ∈ c.passes, ∃ report, p.head = .done (.ok report) := by
  intro p hp
  have hended := List.all_eq_true.1 h p hp
  split at hended
  · next report hreport => exact ⟨report, hreport⟩
  · cases hended

end Crowd

/-- Whatever order the calls of passes of one tenant come in, and whichever of them fail, a desired
tuple that is stored stays, and only desired ones come in. Once all passes have ended well, the stored
keys are the desired ones. -/
theorem crowd_aligns {b : Backends} {snapshot : Snapshot} {tenant : String} {desired : TupleSet}
    {settings : List PassSettings} {c : Crowd} (hstore : b.store.Reachable)
    (hdesired : b.lister.desiredFrom? snapshot tenant = some desired)
    (hdry : ∀ x ∈ settings, x.dryRun = false)
    (hrun : Relation.ReflTransGen Crowd.Step (Crowd.start settings snapshot tenant b) c) :
    (∀ k, (b.store.tuplesOf tenant).contains k = true → desired.contains k = true →
      (c.backends.store.tuplesOf tenant).contains k = true) ∧
    (∀ k, (c.backends.store.tuplesOf tenant).contains k = true →
      (b.store.tuplesOf tenant).contains k = true ∨ desired.contains k = true) ∧
    (settings ≠ [] → (∀ p ∈ c.passes, ∃ report, p.head = .done (.ok report)) →
      ∀ k, (c.backends.store.tuplesOf tenant).contains k = true ↔ desired.contains k = true) := by
  obtain ⟨phases, hlength, h⟩ := (Crowd.inv_start hstore.wellFormed hdry).run hdesired hrun
  refine ⟨fun k hk hd => h.moves.kept k hd hk, h.moves.added, fun hsome hended => ?_⟩
  have hphases : phases ≠ [] := by
    rw [← List.length_pos_iff, hlength, List.length_map, List.length_pos_iff]
    exact hsome
  exact h.contains_iff hphases hended

/-- The settings of two passes of the office. -/
def officePasses : List PassSettings := [{ readPageSize := 1, writeBatchSize := 1 }, {}]

/-- Both passes at their start. -/
def officeCrowd : Crowd :=
  .start officePasses (office.lister.snapshot?.getD {}) "north" office

/-- The second pass runs while the first one has read one page of three. -/
def officeTurns : List Nat := List.replicate 9 0 ++ List.replicate 20 1 ++ List.replicate 20 0

/-- In the office several passes take turns, and at their end the tenant has what is desired. -/
theorem crowd_aligns_office : ∃ desired,
    office.lister.desiredFrom? (office.lister.snapshot?.getD {}) "north" = some desired ∧
      ∀ k, ((officeTurns.foldl Crowd.turn officeCrowd).backends.store.tuplesOf "north").contains k =
        true ↔ desired.contains k = true := by
  have hsome : (office.lister.desiredFrom? (office.lister.snapshot?.getD {}) "north").isSome = true := by
    decide +kernel
  obtain ⟨desired, hdesired⟩ := Option.isSome_iff_exists.1 hsome
  have hdry : ∀ x ∈ officePasses, x.dryRun = false := by decide
  have hended : (officeTurns.foldl Crowd.turn officeCrowd).endedWell = true := by decide +kernel
  obtain ⟨-, -, haligned⟩ := crowd_aligns (.seed .empty "north" _) hdesired hdry
    (officeCrowd.run_turns officeTurns)
  exact ⟨desired, hdesired, haligned (List.cons_ne_nil _ _) (Crowd.of_endedWell hended)⟩

end PolicySync
