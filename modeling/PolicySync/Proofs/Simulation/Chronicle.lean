import PolicySync.Proofs.Simulation.Renewal
import PolicySync.Proofs.Simulation.Shutdown

/-!
# Chronicles

A crowd is a world with any number of jobs that run in it. Jobs join and go on in any order, each
that renews the snapshot beside the build it began with, and whatever is no job may change the world
between their steps (`Crowd.Step`). A chronicle notes which builds have succeeded and which passes
of the scheduler have come to their end, in this order (`Chronicle`). Scenarios have chronicles
(`Course.exists_chronicle`), but there the steps are at one job at a time, besides the loop's.
-/

namespace PolicySync.Simulation

open Relation (ReflTransGen)

variable {w w' : World}

/-! ## Crowds -/

/-- A pass of the scheduler with its result: a full one that was asked for or was due, or that of
one tenant. -/
inductive ScheduledPass where
  | full (r : Except PassError PassReport)
  | triggered (r : Except PassError TenantReport)

/-- What the pass leads to for whoever has asked for it. -/
def ScheduledPass.outcome : ScheduledPass → Outcome
  | full r => .ofExcept .pass r
  | triggered r => .ofExcept .report r

/-- What a chronicle notes. -/
inductive Happening where
  | built (snapshot : Snapshot)
  | passed (pass : ScheduledPass)

namespace Happening

/-- The snapshots that were built. -/
def builds (log : List Happening) : List Snapshot :=
  log.filterMap fun
    | built snapshot => some snapshot
    | passed _ => none

/-- The passes that have come to their end. -/
def passes (log : List Happening) : List ScheduledPass :=
  log.filterMap fun
    | built _ => none
    | passed pass => some pass

/-- Builds come in the order of the log. -/
theorem builds_append (log log' : List Happening) :
    builds (log ++ log') = builds log ++ builds log' :=
  List.filterMap_append

/-- So do the passes that have ended. -/
theorem passes_append (log log' : List Happening) :
    passes (log ++ log') = passes log ++ passes log' :=
  List.filterMap_append

end Happening

/-- Whether a job is a pass of the scheduler. -/
def Job.isScheduled : Job → Bool
  | .single _ _ => false
  | .triggered _ => true
  | .full party _ => party = .scheduler

/-- A job is a pass of the scheduler of this sort. -/
def Job.Takes : Job → ScheduledPass → Prop
  | .triggered _, .triggered _ => True
  | .full .scheduler _, .full _ => True
  | _, _ => False

/-- A job that runs, and the build that it is at. The build moves by itself. -/
structure Runner : Type 1 where
  job : Job
  build : Option (Strand (Except PassError Snapshot)) := none

namespace Runner

/-- A job at its start. -/
inductive Fresh (settings : PassSettings) : Runner → Prop where
  | renewal (e : Renewal) :
      Fresh settings ⟨e.job settings, some (.ready (Pass.buildSnapshot settings))⟩
  | quiet {j : Job} (h : j.Quiet) : Fresh settings ⟨j, none⟩

/-- A job takes a step, and so does its build. -/
inductive Goes : World → Runner → List Happening → World → Runner → Prop where
  | build {w w' : World} {j j' : Job} {build build' : Strand (Except PassError Snapshot)}
      (hgoes : j.Goes w w' j') (hbuild : build.move w j.heeded = .moved w' build') :
      Goes w ⟨j, some build⟩ [] w' ⟨j', some build'⟩
  | succeed {w w₁ w' : World} {j j' : Job} {build : Strand (Except PassError Snapshot)}
      {snapshot : Snapshot} (hgoes : j.Goes w w' j')
      (hbuild : build.move w j.heeded = .ended w₁ (.ok snapshot)) :
      Goes w ⟨j, some build⟩ [.built snapshot] w' ⟨j', none⟩
  | goOn {w w' : World} {j j' : Job} (hgoes : j.Goes w w' j') : Goes w ⟨j, none⟩ [] w' ⟨j', none⟩

/-- A job has come to its end. -/
inductive Ends : World → Runner → List Happening → World → Prop where
  | unnoted {w w' : World} {r : Runner} {outcome : Outcome} (hends : r.job.Ends w w' outcome)
      (hjob : r.job.isScheduled = false) : Ends w r [] w'
  | noted {w w' : World} {r : Runner} {pass : ScheduledPass}
      (hends : r.job.Ends w w' pass.outcome) (hjob : r.job.Takes pass) :
      Ends w r [.passed pass] w'

end Runner

/-- A world and the jobs that run in it. -/
structure Crowd : Type 1 where
  world : World
  runners : List Runner

/-- One step in a crowd: a job joins, goes on or leaves, or something else changes the world. -/
inductive Crowd.Step : Crowd → List Happening → Crowd → Prop where
  | join {w : World} (before after : List Runner) {r : Runner} (h : r.Fresh w.settings) :
      Step ⟨w, before ++ after⟩ [] ⟨w, before ++ r :: after⟩
  | go {w w' : World} {before after : List Runner} {r r' : Runner} {log : List Happening}
      (h : r.Goes w log w' r') : Step ⟨w, before ++ r :: after⟩ log ⟨w', before ++ r' :: after⟩
  | leave {w w' : World} {before after : List Runner} {r : Runner} {log : List Happening}
      (h : r.Ends w log w') : Step ⟨w, before ++ r :: after⟩ log ⟨w', before ++ after⟩
  | beside {w w' : World} {runners : List Runner} (h : w.Leaves w') :
      Step ⟨w, runners⟩ [] ⟨w', runners⟩

/-- What has happened while a crowd came from one state to another. -/
inductive Chronicle : Crowd → List Happening → Crowd → Prop where
  | refl (c : Crowd) : Chronicle c [] c
  | tail {c c₁ c' : Crowd} {log log' : List Happening} (h : Chronicle c log c₁)
      (hstep : c₁.Step log' c') : Chronicle c (log ++ log') c'

/-- One chronicle after the other is a chronicle. -/
theorem Chronicle.trans {c c₁ c' : Crowd} {log log' : List Happening} (h : Chronicle c log c₁)
    (h' : Chronicle c₁ log' c') : Chronicle c (log ++ log') c' := by
  induction h' with
  | refl =>
    rw [List.append_nil]
    exact h
  | tail _ hstep ih =>
    rw [← List.append_assoc]
    exact .tail ih hstep

/-- One step is one. -/
theorem Crowd.Step.chronicle {c c' : Crowd} {log : List Happening} (h : c.Step log c') :
    Chronicle c log c' :=
  .tail (.refl c) h

/-! ## What holds of all who run -/

namespace Runner

variable {r r' : Runner} {log : List Happening} {j' : Job} {outcome : Outcome}

/-- A job is at its build as long as that is noted, and it publishes nothing when none is. -/
def Faithful (r : Runner) : Prop :=
  match r.build with
  | none => r.job.Quiet
  | some build => build.Quiet ∧ ∃ after, r.job.Builds build after

/-- A runner that joins publishes nothing but what it builds. -/
theorem Fresh.faithful {settings : PassSettings} (h : r.Fresh settings) : r.Faithful := by
  cases h with
  | renewal e => exact ⟨Pass.asks_buildSnapshot settings, _, e.builds settings⟩
  | quiet h => exact h

/-- That stays so when it goes on. -/
theorem Faithful.goes (h : r.Faithful) (hgoes : r.Goes w log w' r') : r'.Faithful := by
  cases hgoes with
  | build hgoes hbuild =>
    obtain ⟨hquiet, after, hbuilds⟩ := h
    rcases hbuilds.goes hgoes with ⟨build', hmoved, hbuilds'⟩ | ⟨snapshot, hended, -⟩
    · cases hmoved.symm.trans hbuild
      exact ⟨hquiet.moved hbuild, after, hbuilds'⟩
    · cases hended.symm.trans hbuild
  | succeed hgoes hbuild =>
    obtain ⟨-, after, hbuilds⟩ := h
    rcases hbuilds.goes hgoes with ⟨build', hmoved, -⟩ | ⟨snapshot, -, -, rfl⟩
    · cases hmoved.symm.trans hbuild
    · exact hbuilds.quiet snapshot
  | goOn hgoes => exact Job.Quiet.goes h hgoes

/-- The step of a job is the step of one that runs. -/
theorem Faithful.exists_goes (h : r.Faithful) (hgoes : r.job.Goes w w' j') :
    ∃ log r', r.Goes w log w' r' ∧ r'.job = j' := by
  obtain ⟨j, build⟩ := r
  cases build with
  | none => exact ⟨[], ⟨j', none⟩, .goOn hgoes, rfl⟩
  | some build =>
    obtain ⟨-, after, hbuilds⟩ := h
    rcases hbuilds.goes hgoes with ⟨build', hbuild, -⟩ | ⟨snapshot, hbuild, -⟩
    · exact ⟨[], ⟨j', some build'⟩, .build hgoes hbuild, rfl⟩
    · exact ⟨[.built snapshot], ⟨j', none⟩, .succeed hgoes hbuild, rfl⟩

/-- The end of a job is the end of one that runs. -/
theorem exists_ends (hends : r.job.Ends w w' outcome) : ∃ log, r.Ends w log w' := by
  obtain ⟨j, build⟩ := r
  have hends' := hends
  cases hends with
  | single hmove => exact ⟨[], .unnoted hends' rfl⟩
  | @triggered _ _ result hmove =>
    exact ⟨[.passed (.triggered result)], .noted hends' trivial⟩
  | @full _ party _ result hends =>
    cases party with
    | caller => exact ⟨[], .unnoted hends' rfl⟩
    | scheduler => exact ⟨[.passed (.full result)], .noted hends' trivial⟩

end Runner

namespace Crowd

/-- All who run are faithful. -/
def Faithful (c : Crowd) : Prop := ∀ r ∈ c.runners, r.Faithful

variable {c c' : Crowd} {log : List Happening}

/-- It holds of everybody in a crowd, whoever goes on or joins. -/
theorem Faithful.step (h : c.Faithful) (hstep : c.Step log c') : c'.Faithful := by
  cases hstep with
  | join before after hfresh =>
    rw [Faithful, List.forall_mem_append] at h ⊢
    exact ⟨h.1, List.forall_mem_cons.2 ⟨hfresh.faithful, h.2⟩⟩
  | go hgoes =>
    rw [Faithful, List.forall_mem_append, List.forall_mem_cons] at h ⊢
    exact ⟨h.1, h.2.1.goes hgoes, h.2.2⟩
  | leave hends =>
    rw [Faithful, List.forall_mem_append, List.forall_mem_cons] at h
    exact List.forall_mem_append.2 ⟨h.1, h.2.2⟩
  | beside hleaves => exact h

/-- So it holds along a whole chronicle. -/
theorem Faithful.chronicle (h : c.Faithful) (hlog : Chronicle c log c') : c'.Faithful := by
  induction hlog with
  | refl => exact h
  | tail _ hstep ih => exact ih.step hstep

variable {before after : List Job} {j j' : Job} {outcome : Outcome}

/-- Where one job stands among others, there is one that runs. -/
theorem exists_split (hjobs : c.runners.map (·.job) = before ++ j :: after) :
    ∃ bs r as, c = ⟨c.world, bs ++ r :: as⟩ ∧ bs.map (·.job) = before ∧ r.job = j ∧
      as.map (·.job) = after := by
  obtain ⟨bs, rest, hrunners, hbefore, hrest⟩ := List.map_eq_append_iff.1 hjobs
  obtain ⟨r, as, rfl, hjob, hafter⟩ := List.map_eq_cons_iff.1 hrest
  exact ⟨bs, r, as, congrArg (Crowd.mk c.world) hrunners, hbefore, hjob, hafter⟩

/-- A job of a crowd goes on. -/
theorem Faithful.exists_go (h : c.Faithful) (before after : List Job)
    (hjobs : c.runners.map (·.job) = before ++ j :: after) (hgoes : j.Goes c.world w' j') :
    ∃ log c', c.Step log c' ∧ c'.world = w' ∧ c'.runners.map (·.job) = before ++ j' :: after := by
  obtain ⟨bs, r, as, hc, rfl, rfl, rfl⟩ := exists_split hjobs
  rw [hc] at h ⊢
  obtain ⟨log, r', hrunner, rfl⟩ := (h r (by simp)).exists_goes hgoes
  exact ⟨log, _, .go hrunner, rfl, by simp⟩

/-- A job of a crowd comes to its end. -/
theorem exists_leave (before after : List Job)
    (hjobs : c.runners.map (·.job) = before ++ j :: after)
    (hends : j.Ends c.world w' outcome) :
    ∃ log c', c.Step log c' ∧ c'.world = w' ∧ c'.runners.map (·.job) = before ++ after := by
  obtain ⟨bs, r, as, hc, rfl, rfl, rfl⟩ := exists_split hjobs
  rw [hc]
  obtain ⟨log, hrunner⟩ := Runner.exists_ends hends
  exact ⟨log, _, .leave hrunner, rfl, by simp⟩

end Crowd

/-! ## Scenarios -/

/-- What the steps are at, if it is a job. -/
def Front.jobs : Front → List Job
  | .working j => [j]
  | _ => []

/-- The pass of the loop, if there is one. -/
def Loop.jobs : Loop → List Job
  | .passing p _ => [.full .scheduler p]
  | _ => []

namespace Course

variable {s s' : Course} {c : Crowd}

/-- A scenario whose steps are at no job goes on beside the loop, or its steps come to a job. -/
def Joins (s s' : Course) : Prop :=
  ∃ r : Option Runner, (∀ r' ∈ r, r'.Fresh s.world.settings) ∧ s.world.Leaves s'.world ∧
    s'.loop.jobs = s.loop.jobs ∧ s'.front.jobs = r.toList.map (·.job)

/-- Steps that set out on a job let a runner join. -/
theorem joins_fresh {r : Runner} (h : r.Fresh s.world.settings) :
    s.Joins { s with front := .working r.job } :=
  ⟨some r, fun _ hr => Option.mem_some.1 hr ▸ h, .refl _, rfl, rfl⟩

/-- So does a job that makes calls only. -/
theorem joins_setOut {α : Type} {p : Pass α} (f : α → Outcome) (h : p.Asks Request.IsCall) :
    s.Joins (s.setOut p f) :=
  have hquiet : (Job.single .caller
      (.ready (p.bind fun r => .done (Outcome.ofExcept f r)))).Quiet :=
    Script.Asks.bind h fun _ => trivial
  joins_fresh (.quiet hquiet)

/-- Where nobody has anything new to do, nobody joins. -/
theorem joins_nothing (hworld : s.world.Leaves s'.world) (hloop : s'.loop.jobs = s.loop.jobs)
    (hfront : s'.front.jobs = []) : s.Joins s' :=
  ⟨none, fun _ hr => absurd hr (Option.not_mem_none _), hworld, hloop, hfront⟩

/-- A step that renews the snapshot lets a runner join, and its build is noted. -/
theorem joins_renewal (s : Course) (e : Renewal) : s.Joins (s.begin e.step) := by
  rw [e.begin_step]
  exact joins_fresh (.renewal e)

/-- Whatever step begins, at most one runner joins, and it is fresh. -/
theorem joins_begin (s : Course) (step : Simulation.Step) : s.Joins (s.begin step) := by
  cases step with
  | call call =>
    have hquiet : (Job.single .caller
        (.unlimited call .fresh s.world.now (Outcome.ofResult call))).Quiet := fun _ => trivial
    exact joins_fresh (.quiet hquiet)
  | buildSnapshot => exact joins_setOut _ (Pass.asks_buildSnapshot _)
  | fetchDesired tenant =>
    exact joins_setOut _ (Pass.asks_desiredOfKinds _ _ (fun _ _ => trivial) _)
  | readActual store => exact joins_setOut _ (Pass.asks_actualTuples _ _)
  | apply tenant store diff batchSize limit =>
    refine joins_setOut _ ((Pass.asks_writeBatches _ _ _ _ _).mono fun q hq => ?_)
    obtain ⟨batch, -, rfl⟩ := hq
    trivial
  | refreshSnapshot => exact s.joins_renewal .refresh
  | reconcile tenant => exact s.joins_renewal (.reconcile tenant)
  | reconcileTenant tenant held =>
    exact joins_setOut _ (Pass.asks_reconcileTenant s.world.settings _ tenant)
  | tenants => exact joins_setOut _ (Pass.asks_tenants _)
  | reconcileAll => exact s.joins_renewal (.full .caller)
  | runOnce => exact s.joins_renewal (.full .scheduler)
  | trigger tenant => exact s.joins_renewal (.trigger tenant)
  | start =>
    rw [Course.begin]
    split
    · next hoff => exact joins_nothing (.refl _) (congrArg Loop.jobs hoff).symm rfl
    · exact joins_nothing (.refl _) rfl rfl
  | holdSnapshot name =>
    simp only [Course.begin]
    split
    · exact joins_nothing ⟨rfl, rfl⟩ rfl rfl
    · exact joins_nothing (.refl _) rfl rfl
  | sleep milliseconds => exact joins_nothing (.refl _) rfl rfl
  | shutdown => exact joins_nothing ⟨rfl, rfl⟩ rfl rfl
  | _ => exact joins_nothing ⟨rfl, rfl⟩ rfl rfl

/-- What runs in a scenario. -/
def jobs (s : Course) : List Job := s.front.jobs ++ s.loop.jobs

/-- A crowd is a scenario, without the steps to come. -/
structure Shows (s : Course) (c : Crowd) : Prop where
  world : c.world = s.world
  jobs : c.runners.map (·.job) = s.jobs
  faithful : c.Faithful

/-- A step of a scenario is steps of its crowd. -/
theorem Shows.step (h : s.Shows c) (hstep : Step s s') :
    ∃ log c', Chronicle c log c' ∧ s'.Shows c' := by
  obtain ⟨hworld, hjobs, hfaithful⟩ := h
  have hnothing : s'.world = s.world → s'.jobs = s.jobs →
      ∃ log c', Chronicle c log c' ∧ s'.Shows c' :=
    fun hw hj => ⟨[], c, .refl c, hworld.trans hw.symm, hjobs.trans hj.symm, hfaithful⟩
  -- Most steps are one step of the crowd or none.
  have hone : (∃ log c', c.Step log c' ∧ c'.world = s'.world ∧ c'.runners.map (·.job) = s'.jobs) →
      ∃ log c', Chronicle c log c' ∧ s'.Shows c' :=
    fun ⟨log, c', hstep, hw, hj⟩ => ⟨log, c', hstep.chronicle, hw, hj, hfaithful.step hstep⟩
  rw [Course.jobs] at hjobs
  cases hstep with
  | @begin step rest hfront hsteps =>
    rw [hfront] at hjobs
    obtain ⟨r, hfresh, hleaves, hloop, hjob⟩ := joins_begin { s with steps := rest } step
    -- What begins may change the world as well, and who joins does so before that.
    have hbeside : ∀ runners, Crowd.Step ⟨c.world, runners⟩ []
        ⟨({ s with steps := rest }.begin step).world, runners⟩ :=
      fun _ => .beside (hworld ▸ hleaves)
    cases r with
    | none =>
      refine hone ⟨[], _, hbeside c.runners, rfl, ?_⟩
      rw [Course.jobs, hjob, hloop]
      exact hjobs
    | some r =>
      have hjoin : c.Step [] ⟨c.world, r :: c.runners⟩ :=
        .join [] c.runners (hworld ▸ hfresh r rfl)
      refine ⟨_, _, hjoin.chronicle.trans (hbeside _).chronicle, rfl, ?_,
        (hfaithful.step hjoin).step (hbeside _)⟩
      rw [Course.jobs, hjob, hloop]
      exact congrArg (r.job :: ·) hjobs
  | wake hfront hwake => exact hnothing rfl (by rw [Course.jobs, Course.jobs, hfront]; rfl)
  | work hfront hgoes =>
    rw [hfront] at hjobs
    exact hone (hfaithful.exists_go [] _ hjobs (hworld ▸ hgoes))
  | conclude hfront hends =>
    rw [hfront] at hjobs
    exact hone (Crowd.exists_leave [] _ hjobs (hworld ▸ hends))
  | join hfront hloop => exact hnothing rfl (by rw [Course.jobs, Course.jobs, hfront]; rfl)
  | stop hloop hstop => exact hnothing rfl (by rw [Course.jobs, Course.jobs, hloop]; rfl)
  | tick hloop htick =>
    rw [hloop] at hjobs
    -- The loop comes last among the runners, so its pass joins at the end.
    have hfresh : Runner.Fresh c.world.settings _ := .renewal (.full .scheduler)
    have hjoin := Crowd.Step.join c.runners [] hfresh
    rw [List.append_nil] at hjoin
    refine hone ⟨[], _, hjoin, hworld, ?_⟩
    rw [List.map_append, hjobs, hworld, Course.jobs]
    exact congrArg (· ++ _) (List.append_nil _)
  | pass hloop hgoes =>
    rw [hloop] at hjobs
    exact hone (hfaithful.exists_go _ [] hjobs (hworld ▸ Job.Goes.full hgoes))
  | record hloop hends =>
    rw [hloop] at hjobs
    have hjob := Job.Ends.full hends
    rw [if_pos rfl, ← hworld] at hjob
    obtain ⟨log, c', hstep, hw, hj⟩ := Crowd.exists_leave _ [] hjobs hjob
    rw [List.append_nil] at hj
    exact hone ⟨log, c', hstep, hw, hj.trans (List.append_nil _).symm⟩
  | elapse hnow =>
    refine hone ⟨[], ⟨_, c.runners⟩, .beside (w := c.world) ?_, rfl, hjobs⟩
    rw [hworld]
    exact ⟨rfl, rfl⟩
  | turn loopsTurn => exact hnothing rfl rfl

/-- A scenario has a chronicle. -/
theorem exists_chronicle {world : World} {steps : List Simulation.Step}
    (h : ReflTransGen Step (start world steps) s) :
    ∃ log c, Chronicle ⟨world, []⟩ log c ∧ s.Shows c := by
  induction h with
  | refl => exact ⟨[], _, .refl _, rfl, rfl, fun _ hr => absurd hr List.not_mem_nil⟩
  | tail _ hstep ih =>
    obtain ⟨log, c, hlog, hshows⟩ := ih
    obtain ⟨log', c', hlog', hshows'⟩ := hshows.step hstep
    exact ⟨log ++ log', c', hlog.trans hlog', hshows'⟩

end Course

end PolicySync.Simulation
