import PolicySync.Proofs.Simulation.Chronicle

/-!
# The published snapshot over histories

The world holds the snapshot of the last build that has succeeded, however jobs overlap and whatever
else happens (`Chronicle.snapshot`): a build publishes in one step when all of it is done, and no
other step touches what was published. A pass that has published goes on with its own snapshot, and
it takes the same steps whatever is published later (`Job.Run.holding`).
-/

namespace PolicySync.Simulation

open Happening (builds builds_append)

variable {party : Party} {w w' : World} {log : List Happening}

/-! ## Who publishes -/

/-- A faithful runner publishes what it has built in the step. -/
theorem Runner.Faithful.snapshot {r r' : Runner} (h : r.Faithful) (hgoes : r.Goes w log w' r') :
    w'.snapshot = (builds log).getLast?.or w.snapshot := by
  cases hgoes with
  | build hgoes hbuild =>
    obtain ⟨hquiet, -⟩ := h
    exact (Strand.leaves_of_moved hquiet.publishes? hbuild).snapshot
  | succeed hgoes hbuild =>
    obtain ⟨-, after, hbuilds⟩ := h
    rcases hbuilds.goes hgoes with ⟨build', hmoved, -⟩ | ⟨snapshot, hended, rfl, -⟩
    · cases hmoved.symm.trans hbuild
    · cases hended.symm.trans hbuild
      rfl
  | goOn hgoes => exact (Job.Quiet.leaves h hgoes).snapshot

/-- At its end it publishes nothing. -/
theorem Runner.Ends.snapshot {r : Runner} (h : r.Ends w log w') :
    w'.snapshot = (builds log).getLast?.or w.snapshot := by
  cases h with
  | unnoted hends _ => exact Job.Ends.snapshot hends
  | noted hends _ => exact Job.Ends.snapshot hends

/-- So the snapshot is the last build, whoever goes on. -/
theorem Crowd.Step.snapshot {c c' : Crowd} (hfaithful : c.Faithful) (h : c.Step log c') :
    c'.world.snapshot = (builds log).getLast?.or c.world.snapshot := by
  cases h with
  | join before after hfresh => rfl
  | go hgoes =>
    rw [Crowd.Faithful, List.forall_mem_append, List.forall_mem_cons] at hfaithful
    exact hfaithful.2.1.snapshot hgoes
  | leave hends => exact hends.snapshot
  | beside hleaves => exact hleaves.snapshot

/-- The snapshot is that of the last build, or the one from before. -/
theorem Chronicle.snapshot {c c' : Crowd} (hfaithful : c.Faithful) (h : Chronicle c log c') :
    c'.world.snapshot = (builds log).getLast?.or c.world.snapshot := by
  induction h with
  | refl => rfl
  | tail hbefore hstep ih =>
    rw [hstep.snapshot (hfaithful.chronicle hbefore), ih, builds_append, List.getLast?_append,
      Option.or_assoc]

/-! ## What a pass goes on with -/

/-- A quiet job takes the same steps when the snapshot that is published stays the same. -/
theorem Job.Run.holding {j : Job} {j' : Option Job} {log : List (World × World)} (hquiet : j.Quiet)
    (h : Job.Run party w j log w' j') (cell : Option Snapshot) :
    Job.Run party (w.holding cell) j
      (log.map fun step => (step.1.holding cell, step.2.holding cell)) (w'.holding cell) j' := by
  induction h with
  | stay => exact .stay
  | go hgoes _ ih => exact .go (hquiet.holding hgoes) (ih (hquiet.goes hgoes))
  | beside hcancelled _ ih =>
    refine .beside ?_ (ih hquiet)
    cases party <;> exact hcancelled
  | finish hends => exact .finish hends.holding

namespace Strand

variable {α : Type} {s s' : Strand α} {a : α} {P : α → Prop}

/-- A strand ends with no result but those that satisfy `P`. -/
def Yields (P : α → Prop) (s : Strand α) : Prop := s.Carries (·.Yields P)

/-- A strand that goes on ends with the same kind of result. -/
theorem Yields.moved (h : s.Yields P) (hmove : s.move w party = .moved w' s') : s'.Yields P :=
  Carries.moved (fun hp hhead => hp.head hhead) h hmove

/-- When it ends, its result is of that kind. -/
theorem Yields.ended (h : s.Yields P) (hmove : s.move w party = .ended w' a) : P a := by
  cases s with
  | ready p =>
    rw [move] at hmove
    split at hmove
    · next hp =>
      cases hmove
      obtain rfl := Script.eq_done_of_head hp
      exact h
    · cases hmove
    · split at hmove <;> cases hmove
  | limited c stage wake deadline next =>
    rw [move] at hmove
    split at hmove
    · cases hmove
    · split at hmove
      · cases hmove
      · split at hmove <;> cases hmove
  | unlimited c stage wake finish =>
    -- A call without a limit ends with what is made of its result.
    have hfinish : ∀ r, P (finish r) := h
    rw [move] at hmove
    split at hmove
    · split at hmove
      · cases hmove
        exact hfinish _
      · cases hmove
    · cases hmove

end Strand

/-- A full pass has a snapshot for its tenants. -/
def FullPass.Holds (snapshot : Snapshot) : FullPass → Prop
  | .preparing s => s.Yields fun r => ∀ a, r = .ok a → a.1 = snapshot
  | .running held _ _ => held = snapshot

/-- A full pass keeps its snapshot while others are published. -/
theorem FullPass.Holds.goes {snapshot : Snapshot} {p p' : FullPass} (h : p.Holds snapshot)
    (hgoes : p.Goes party w w' p') : p'.Holds snapshot := by
  cases hgoes with
  | prepare hmove => exact Strand.Yields.moved h hmove
  | launch round hmove => exact Strand.Yields.ended h hmove _ rfl
  | turn round round' hturn => exact h

/-- After its publication a full pass holds the snapshot that it has built. -/
theorem Renewal.holds_after (settings : PassSettings) (snapshot : Snapshot) (party : Party) :
    ∃ p, (Renewal.full party).after settings snapshot = .full party p ∧ p.Holds snapshot :=
  ⟨_, rfl, Pass.Yields.andThen ((Script.yields_true _).mono fun _ _ _ _ _ h => nomatch h)
    fun _ _ h => by cases h; rfl⟩

/-- A full pass holds one snapshot to its end. -/
theorem Job.Run.holds {snapshot : Snapshot} {p : FullPass} {log : List (World × World)} {j' : Job}
    (h : p.Holds snapshot) (hrun : Job.Run party w (.full party p) log w' (some j')) :
    ∃ p', j' = .full party p' ∧ p'.Holds snapshot := by
  generalize hj : Job.full party p = j at hrun
  generalize hj' : some j' = last at hrun
  induction hrun generalizing p with
  | stay =>
    cases hj'
    exact ⟨p, hj.symm, h⟩
  | go hgoes _ ih =>
    subst hj
    cases hgoes with
    | full hgoes => exact ih (h.goes hgoes) rfl hj'
  | beside _ _ ih => exact ih h hj hj'
  | finish _ => cases hj'

/-! ## The history of the snapshot -/

/-- Whatever runs, in whatever order, and whatever happens to policies, calls and parties meanwhile,
the snapshot is that of the last build that has succeeded, and there is none before the first. Every
call that renews it begins with a build. As long as that is under way the call takes the steps of
the build; if the build fails, so does the call, which leaves the snapshot as it is; once the build
has succeeded its snapshot is published, and the call goes on with that one and publishes no other.
From then on it takes the same steps and ends in the same way if no snapshot is published beside
it, and a full pass holds one snapshot for all its tenants. -/
theorem snapshot_lastBuilt :
    (∀ {w : World} {log : List Happening} {c : Crowd}, w.snapshot = none →
      Chronicle ⟨w, []⟩ log c → c.world.snapshot = (builds log).getLast?) ∧
    (∀ (s : Course) (e : Renewal),
      s.begin e.step = { s with front := .working (e.job s.world.settings) } ∧
      (e.job s.world.settings).Builds (.ready (Pass.buildSnapshot s.world.settings))
        (e.after s.world.settings ·)) ∧
    (∀ {build : Strand (Except PassError Snapshot)} {j : Job} {after : Snapshot → Job},
      j.Builds build after →
      (∀ {w w' : World} {j' : Job}, j.Goes w w' j' →
        (∃ build', build.move w j.heeded = .moved w' build' ∧ j'.Builds build' after) ∨
        ∃ snapshot, build.move w j.heeded = .ended w (.ok snapshot) ∧
          w' = w.holding (some snapshot) ∧ j' = after snapshot) ∧
      (∀ {w w' : World} {outcome : Outcome}, j.Ends w w' outcome →
        (∃ e, build.move w j.heeded = .ended w (.error e) ∧ outcome = .passError e) ∧
        w'.snapshot = w.snapshot) ∧
      (∀ {w w' : World} {snapshot : Snapshot},
        build.move w j.heeded = .ended w' (.ok snapshot) →
        j.Goes w (w.holding (some snapshot)) (after snapshot)) ∧
      ∀ snapshot, (after snapshot).Quiet) ∧
    (∀ {party : Party} {w w' : World} {j : Job} {j' : Option Job} {log : List (World × World)},
      j.Quiet → Job.Run party w j log w' j' → ∀ cell,
        Job.Run party (w.holding cell) j
          (log.map fun step => (step.1.holding cell, step.2.holding cell)) (w'.holding cell) j') ∧
    (∀ {w w' : World} {j : Job} {outcome : Outcome}, j.Ends w w' outcome → ∀ cell,
      j.Ends (w.holding cell) (w'.holding cell) outcome) ∧
    ∀ {settings : PassSettings} {snapshot : Snapshot} {party : Party} {w w' : World} {j' : Job}
      {log : List (World × World)},
      Job.Run party w ((Renewal.full party).after settings snapshot) log w' (some j') →
        ∃ p, j' = .full party p ∧ p.Holds snapshot := by
  refine ⟨?_, fun s e => ⟨e.begin_step s, e.builds _⟩, fun hbuilds => ?_,
    fun hquiet hrun cell => hrun.holding hquiet cell, fun hends cell => hends.holding,
    fun {settings snapshot party} _ _ _ _ hrun => ?_⟩
  · intro w log c hnone h
    have hfaithful : (Crowd.mk w []).Faithful := fun _ hr => absurd hr List.not_mem_nil
    rw [h.snapshot hfaithful, hnone, Option.or_none]
  · exact ⟨hbuilds.goes, fun hends => ⟨hbuilds.ends hends, hends.snapshot⟩, hbuilds.publishes,
      hbuilds.quiet⟩
  · obtain ⟨p, hafter, hholds⟩ := Renewal.holds_after settings snapshot party
    rw [hafter] at hrun
    exact Job.Run.holds hholds hrun

/-- The office before anything has run. -/
def newOffice : World where
  lister := Memory.Backends.office.lister
  store := Memory.Backends.office.store

/-- The snapshot is refreshed, then a role comes that inherits from none, and a pass fails. -/
def brokenCourse : Course := (Course.start newOffice [.refreshSnapshot,
  .upsert [Pass.roleTo "docs:write" "editor" ["missing"]], .reconcile "north"]).run 40

/-- A full pass that holds the empty snapshot and has gone on for a while. -/
def emptyPass : World × Job :=
  ((Renewal.full .caller).after newOffice.settings {}).goOn 3 newOffice

/-- The second build of such a day fails, and the first stays published. -/
theorem snapshot_lastBuilt_broken :
    (∃ log c, Chronicle ⟨newOffice, []⟩ log c ∧ c.world = brokenCourse.world ∧
      c.world.snapshot = (builds log).getLast?) ∧
    -- The pass has failed, and the snapshot is the one from before.
    (match brokenCourse.outcomes with
      | [.passError e, _, _] => e.message
      | _ => "") = "global role resolution failed: role editor references unknown role missing" ∧
    (brokenCourse.world.snapshot.map fun snapshot => snapshot.tuples.map (·.key)) =
      some [{ user := "role:reader#assignee", relation := "get", object := "group_resource:docs" }] ∧
    (∃ log p, emptyPass.2 = .full .caller p ∧ p.Holds {} ∧
      Job.Run .caller (newOffice.holding (some {})) ((Renewal.full .caller).after {} {}) log
        (emptyPass.1.holding (some {})) (some emptyPass.2)) ∧
    (Renewal.refresh.after {} {}).Ends (newOffice.holding (some {})) (newOffice.holding (some {}))
      (.snapshot {}) := by
  obtain ⟨hlast, hrenewal, hbuilds, hpinned, hends, hholds⟩ := snapshot_lastBuilt
  refine ⟨?_, by decide +kernel, by decide +kernel, ?_, hends (.single rfl) _⟩
  · obtain ⟨log, c, hlog, hshows⟩ := Course.exists_chronicle (Course.steps_run 40
      (Course.start newOffice [.refreshSnapshot,
        .upsert [Pass.roleTo "docs:write" "editor" ["missing"]], .reconcile "north"]))
    exact ⟨log, c, hlog, hshows.world, hlast rfl hlog⟩
  · have hquiet := (hbuilds (hrenewal (.start newOffice []) (.full .caller)).2).2.2.2 {}
    obtain ⟨log, hrun⟩ := ((Renewal.full .caller).after {} {}).run_goOn .caller 3 newOffice
    obtain ⟨p, hp, hheld⟩ := hholds hrun
    exact ⟨_, p, hp, hheld, hpinned hquiet hrun _⟩

end PolicySync.Simulation
