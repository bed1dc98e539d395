import PolicySync.Proofs.Simulation.Denial

/-!
# The scheduler and those who call it

Whoever asks the scheduler for a pass, or shuts it down, may do so in a task of its own. So any number
of passes can be under way beside the loop's, and a shutdown waits for the loop but for none of them.
`Scheduler` is the loop with the passes that were asked for and the shutdowns that wait,
`Scheduler.Step` lets all of these go on in any order, and others change the world in any way that
takes no shutdown back. A `Scheduler.History` notes whose the steps were.

While a shutdown waits the scheduler is cancelled (`Scheduler.Orderly`), and from then on its steps
start no call: the writes that are in flight land, each of them once at most
(`Scheduler.Orderly.lands`). The scenarios that the simulation runs have such histories, in which no
two passes are asked for at a time (`Course.exists_history`).
-/

namespace PolicySync.Simulation

open Memory (WriteCall)
open Relation (ReflTransGen)

/-- No call was started, no lister and no tenant's store was touched, and tuples changed as writes
that landed one after the other have changed them. -/
structure World.LandsAll (w : World) (landed : List WriteCall) (w' : World) : Prop where
  tally : w'.tally = w.tally
  lister : w'.lister = w.lister
  ids : w'.store.ids = w.store.ids
  contents : w'.store.contents =
    landed.foldl (fun contents c => c.land contents) w.store.contents

/-- One more step lands a write at most. -/
theorem World.LandsAll.step {w w₁ w' : World} {landed : List WriteCall} {l : Option WriteCall}
    (h : w.LandsAll landed w₁) (h' : w₁.Lands l w') : w.LandsAll (landed ++ l.toList) w' := by
  refine ⟨h'.tally.trans h.tally, h'.lister.trans h.lister, h'.ids.trans h.ids, ?_⟩
  rw [h'.contents, h.contents, List.foldl_append]
  cases l <;> rfl

namespace Loop

/-- The pass of a loop waits only for calls that have begun. -/
def Underway : Loop → Prop
  | .passing p _ => p.Underway
  | _ => True

/-- The writes that the pass of a loop has in flight. -/
def inFlight : Loop → Multiset WriteCall
  | .passing p _ => p.inFlight
  | _ => 0

end Loop

/-- The scheduler's loop and the calls that others have made of it. -/
structure Scheduler : Type 1 where
  world : World
  loop : Loop := .off
  /-- Whether the loop has been asked to stop. -/
  stopping : Bool := false
  /-- The passes that were asked for and have not ended. -/
  jobs : List Job := []
  /-- How many shutdowns wait for the loop to end. -/
  joining : Nat := 0

namespace Scheduler

/-- What a step is. -/
inductive Deed where
  /-- The loop is started. -/
  | starts
  /-- A shutdown begins. -/
  | shutsDown
  /-- A shutdown returns. -/
  | returns
  /-- A pass is asked for. -/
  | asks (e : Errand)
  /-- The loop or a pass goes on, or time passes. -/
  | works
  /-- Somebody else changes the world. -/
  | others

/-- One step. The loop, the passes that were asked for, the shutdowns and the clock come in any order.
A loop that has been asked to stop may still take a tick first. -/
inductive Step : Scheduler → Deed → Scheduler → Prop where
  | start {s : Scheduler} (hloop : s.loop = .off) :
      Step s .starts { s with loop := .resting s.world.now, stopping := false }
  | shutdown {s : Scheduler} :
      Step s .shutsDown { s with
        world := { s.world with schedulerCancelled := true }
        stopping := true
        joining := s.joining + 1 }
  | join {s : Scheduler} {others : Nat} (hjoining : s.joining = others + 1) (hloop : s.loop = .off) :
      Step s .returns { s with joining := others }
  | ask {s : Scheduler} {before after : List Job} {e : Errand} (he : e.heeded = .scheduler)
      (hjobs : s.jobs = before ++ after) :
      Step s (.asks e) { s with jobs := before ++ e.job s.world :: after }
  | go {s : Scheduler} {w : World} {before after : List Job} {j j' : Job}
      (hjobs : s.jobs = before ++ j :: after) (h : j.Goes s.world w j') :
      Step s .works { s with world := w, jobs := before ++ j' :: after }
  | leave {s : Scheduler} {w : World} {before after : List Job} {j : Job} {outcome : Outcome}
      (hjobs : s.jobs = before ++ j :: after) (h : j.Ends s.world w outcome) :
      Step s .works { s with world := w, jobs := before ++ after }
  | stop {s : Scheduler} {tick : Nat} (hloop : s.loop = .resting tick) (hstop : s.stopping = true) :
      Step s .works { s with loop := .off }
  | tick {s : Scheduler} {tick : Nat} (hloop : s.loop = .resting tick)
      (htick : tick ≤ s.world.now) :
      Step s .works { s with
        loop := .passing (.start s.world.settings)
          (Course.nextTick tick s.world.now s.world.settings.interval) }
  | pass {s : Scheduler} {w : World} {p p' : FullPass} {tick : Nat}
      (hloop : s.loop = .passing p tick) (h : p.Goes .scheduler s.world w p') :
      Step s .works { s with world := w, loop := .passing p' tick }
  | record {s : Scheduler} {w : World} {p : FullPass} {tick : Nat}
      {r : Except PassError PassReport} (hloop : s.loop = .passing p tick)
      (h : p.Ends .scheduler s.world w r) :
      Step s .works { s with world := w.recordFull r, loop := .resting tick }
  | elapse {s : Scheduler} {now : Nat} (h : s.world.now ≤ now) :
      Step s .works { s with world := { s.world with now } }
  | beside {s : Scheduler} {w : World}
      (h : s.world.schedulerCancelled = true → w.schedulerCancelled = true) :
      Step s .others { s with world := w }

/-- Steps one after the other, with the worlds before and after each. -/
inductive History : Scheduler → List (Deed × World × World) → Scheduler → Prop where
  | refl (s : Scheduler) : History s [] s
  | tail {s s₁ s' : Scheduler} {log : List (Deed × World × World)} {deed : Deed}
      (h : History s log s₁) (hstep : s₁.Step deed s') :
      History s (log ++ [(deed, s₁.world, s'.world)]) s'

/-- The worlds before and after the steps that are not of others. -/
def own (log : List (Deed × World × World)) : List (World × World) :=
  log.filterMap fun
    | (.others, _) => none
    | (_, worlds) => some worlds

/-- The writes that the scheduler has in flight. -/
def inFlight (s : Scheduler) : Multiset WriteCall := s.loop.inFlight + (s.jobs.map Job.inFlight).sum

variable {s s₁ s' : Scheduler} {deed : Deed} {log log' : List (Deed × World × World)}

/-- One history after the other is a history. -/
theorem History.trans (h : History s log s₁) (h' : History s₁ log' s') :
    History s (log ++ log') s' := by
  induction h' with
  | refl =>
    rw [List.append_nil]
    exact h
  | tail _ hstep ih =>
    rw [← List.append_assoc]
    exact .tail ih hstep

/-- One step is one. -/
theorem Step.history (h : s.Step deed s') : History s [(deed, s.world, s'.world)] s' :=
  .tail (.refl s) h

/-- A scheduler whose passes are these can stay as it is. -/
theorem exists_history_stay {jobs : List Job} (hjobs : s.jobs = jobs) :
    ∃ log, History s log { s with world := s.world, jobs } ∧ ∀ e ∈ log, e.1 = .works := by
  subst hjobs
  exact ⟨[], .refl s, fun _ he => absurd he List.not_mem_nil⟩

/-- A pass that was asked for goes on by itself. -/
theorem exists_history_goOn {before after : List Job} {j : Job} (n : Nat)
    (hjobs : s.jobs = before ++ j :: after) :
    ∃ log, History s log { s with
        world := (j.goOn n s.world).1, jobs := before ++ (j.goOn n s.world).2 :: after } ∧
      ∀ e ∈ log, e.1 = .works := by
  induction n generalizing s j with
  | zero => exact exists_history_stay hjobs
  | succ n ih =>
    rw [Job.goOn]
    split
    · next w j' hmove =>
      -- Every move is a step of the job at its place.
      have hgo := Step.go hjobs (Job.goes_of_move hmove)
      obtain ⟨log, hrest, hworks⟩ :=
        ih (s := { s with world := w, jobs := before ++ j' :: after }) rfl
      exact ⟨_, hgo.history.trans hrest, List.forall_mem_cons.2 ⟨rfl, hworks⟩⟩
    · exact exists_history_stay hjobs

/-- A pass is asked for and goes on, and a shutdown begins. -/
theorem exists_history_shutdown (world : World) {e : Errand} (he : e.heeded = .scheduler)
    (n : Nat) :
    ∃ log, History { world } log {
      world := { ((e.job world).goOn n world).1 with schedulerCancelled := true }
      stopping := true
      jobs := [((e.job world).goOn n world).2]
      joining := 1 } := by
  let asked : Scheduler := { world, jobs := [e.job world] }
  have hask : Step { world } (.asks e) asked :=
    .ask he (show ({ world } : Scheduler).jobs = [] ++ [] from rfl)
  obtain ⟨log, hgo, -⟩ := asked.exists_history_goOn n (List.nil_append _).symm
  exact ⟨_, (hask.history.trans hgo).trans Step.shutdown.history⟩

/-! ## What holds at any time -/

/-- Whatever is under way waits for calls that have begun and heeds the scheduler's cancellation, and
a shutdown that waits has cancelled. -/
structure Orderly (s : Scheduler) : Prop where
  jobs : ∀ j ∈ s.jobs, j.Underway ∧ j.heeded = .scheduler
  loop : s.loop.Underway
  joining : s.joining ≠ 0 → s.world.schedulerCancelled = true

/-- The load of one pass among the others. -/
theorem sum_inFlight (before after : List Job) (j : Job) :
    ((before ++ j :: after).map Job.inFlight).sum =
      j.inFlight + ((before ++ after).map Job.inFlight).sum := by
  simp only [List.map_append, List.map_cons, List.sum_append, List.sum_cons]
  exact add_left_comm _ _ _

/-- The pass of a loop that is in one waits for calls that have begun. -/
theorem Orderly.underway_passing (h : s.Orderly) {p : FullPass} {tick : Nat}
    (hloop : s.loop = .passing p tick) : p.Underway := by
  have hall := h.loop
  rw [hloop] at hall
  exact hall

/-- A step of the scheduler heeds its cancellation. -/
theorem Orderly.heeds (h : s.Orderly) (hstep : s.Step deed s') (hdeed : deed ≠ .others) :
    Heeds .scheduler s.world s.inFlight s'.world s'.inFlight := by
  -- Only a pass can change the tuples. All other steps leave the backends as they are.
  cases hstep with
  | start hloop =>
    refine .refl (le_of_eq ?_)
    rw [inFlight, inFlight, hloop]
    rfl
  | shutdown =>
    exact ⟨fun party hc => by cases party <;> first | exact hc | rfl,
      fun _ => ⟨none, ⟨rfl, rfl, rfl, rfl⟩, (zero_add _).le⟩⟩
  | join hjoining hloop => exact .refl le_rfl
  | @ask before after e he hjobs =>
    refine .refl (le_of_eq ?_)
    rw [inFlight, inFlight, sum_inFlight, e.inFlight_job, hjobs, zero_add]
  | @go w before after j j' hjobs hgoes =>
    obtain ⟨hunderway, hheeded⟩ := h.jobs j (hjobs ▸ List.mem_append_right _ List.mem_cons_self)
    have hheeds := (hunderway.heeds hgoes).frame
      (s.loop.inFlight + ((before ++ after).map Job.inFlight).sum)
    rw [hheeded] at hheeds
    rw [inFlight, inFlight, hjobs, sum_inFlight, sum_inFlight, add_left_comm,
      add_left_comm _ j'.inFlight]
    exact hheeds
  | @leave w before after j outcome hjobs hends =>
    obtain ⟨hunderway, -⟩ := h.jobs j (hjobs ▸ List.mem_append_right _ List.mem_cons_self)
    obtain ⟨health, rfl⟩ := hunderway.health_of_ends hends
    refine ⟨fun party hc => by cases party <;> exact hc, fun _ =>
      ⟨none, ⟨rfl, rfl, rfl, rfl⟩, ?_⟩⟩
    refine (zero_add (_ : Multiset WriteCall)).trans_le ?_
    rw [inFlight, inFlight, hjobs, sum_inFlight]
    exact add_le_add_right (Multiset.le_add_left _ _) _
  | stop hloop hstop =>
    refine .refl (le_of_eq ?_)
    rw [inFlight, inFlight, hloop]
    rfl
  | tick hloop htick =>
    refine .refl (le_of_eq ?_)
    rw [inFlight, inFlight, hloop]
    rfl
  | @pass w p p' tick hloop hgoes =>
    have hunderway := h.underway_passing hloop
    rw [inFlight, inFlight, hloop]
    exact (FullPass.Underway.heeds hunderway hgoes).frame _
  | @record w p tick r hloop hends =>
    have hunderway := h.underway_passing hloop
    obtain rfl := FullPass.Underway.eq_of_ends hunderway hends
    refine ⟨fun party hc => by cases party <;> exact hc, fun _ =>
      ⟨none, ⟨rfl, rfl, rfl, rfl⟩, ?_⟩⟩
    rw [inFlight, inFlight, hloop]
    exact (zero_add _).trans_le (add_le_add_left bot_le _)
  | elapse hnow =>
    exact ⟨fun party hc => by cases party <;> exact hc,
      fun _ => ⟨none, ⟨rfl, rfl, rfl, rfl⟩, (zero_add _).le⟩⟩
  | beside hkeeps => exact absurd rfl hdeed

/-- No step takes a shutdown back. -/
theorem Orderly.cancelled (h : s.Orderly) (hstep : s.Step deed s')
    (hc : s.world.schedulerCancelled = true) : s'.world.schedulerCancelled = true := by
  by_cases hdeed : deed = .others
  · subst hdeed
    cases hstep with
    | beside hkeeps => exact hkeeps hc
  · exact (h.heeds hstep hdeed).cancelled .scheduler hc

/-- The order is kept by every step. -/
theorem Orderly.step (h : s.Orderly) (hstep : s.Step deed s') : s'.Orderly := by
  -- A shutdown that waits has cancelled, and no step takes that back.
  have hcancelled := h.cancelled hstep
  cases hstep with
  | start hloop => exact ⟨h.jobs, trivial, h.joining⟩
  | shutdown => exact ⟨h.jobs, h.loop, fun _ => rfl⟩
  | join hjoining hloop =>
    exact ⟨h.jobs, h.loop, fun _ => h.joining (by rw [hjoining]; exact Nat.succ_ne_zero _)⟩
  | @ask before after e he hjobs =>
    refine ⟨fun j hj => ?_, h.loop, h.joining⟩
    rcases List.mem_append.1 hj with hj | hj
    · exact h.jobs j (hjobs ▸ List.mem_append_left _ hj)
    · rcases List.mem_cons.1 hj with rfl | hj
      · exact ⟨e.underway_job _, (e.heeded_job _).trans he⟩
      · exact h.jobs j (hjobs ▸ List.mem_append_right _ hj)
  | @go w before after j j' hjobs hgoes =>
    obtain ⟨hunderway, hheeded⟩ := h.jobs j (hjobs ▸ List.mem_append_right _ List.mem_cons_self)
    refine ⟨fun i hi => ?_, h.loop, fun hjoining => hcancelled (h.joining hjoining)⟩
    rcases List.mem_append.1 hi with hi | hi
    · exact h.jobs i (hjobs ▸ List.mem_append_left _ hi)
    · rcases List.mem_cons.1 hi with rfl | hi
      · exact ⟨hunderway.goes hgoes, (Job.heeded_of_goes hgoes).trans hheeded⟩
      · exact h.jobs i (hjobs ▸ List.mem_append_right _ (List.mem_cons_of_mem _ hi))
  | @leave w before after j outcome hjobs hends =>
    refine ⟨fun i hi => h.jobs i ?_, h.loop, fun hjoining => hcancelled (h.joining hjoining)⟩
    rw [hjobs]
    rcases List.mem_append.1 hi with hi | hi
    · exact List.mem_append_left _ hi
    · exact List.mem_append_right _ (List.mem_cons_of_mem _ hi)
  | stop hloop hstop => exact ⟨h.jobs, trivial, h.joining⟩
  | tick hloop htick => exact ⟨h.jobs, FullPass.underway_start s.world.settings, h.joining⟩
  | pass hloop hgoes =>
    exact ⟨h.jobs, (h.underway_passing hloop).goes hgoes,
      fun hjoining => hcancelled (h.joining hjoining)⟩
  | record hloop hends =>
    exact ⟨h.jobs, trivial, fun hjoining => hcancelled (h.joining hjoining)⟩
  | elapse hnow => exact ⟨h.jobs, h.loop, h.joining⟩
  | beside hkeeps => exact ⟨h.jobs, h.loop, fun hjoining => hkeeps (h.joining hjoining)⟩

/-- At the start nothing is under way. -/
theorem orderly_idle (world : World) : Orderly { world } :=
  ⟨fun _ hj => absurd hj List.not_mem_nil, trivial, fun h => absurd rfl h⟩

/-- So the order holds along every history. -/
theorem Orderly.run (h : s.Orderly) (hrun : History s log s') : s'.Orderly := by
  induction hrun with
  | refl => exact h
  | tail _ hstep ih => exact ih.step hstep

/-! ## After a shutdown -/

/-- A loop that is off stays so until it is started. -/
theorem History.loop_off (hrun : History s log s') (hloop : s.loop = .off)
    (hnone : ∀ e ∈ log, e.1 ≠ .starts) : s'.loop = .off := by
  induction hrun with
  | refl => exact hloop
  | tail _ hstep ih =>
    have hoff := ih fun e he => hnone e (List.mem_append_left _ he)
    cases hstep with
    | start _ => exact absurd rfl (hnone _ (List.mem_append_right _ List.mem_cons_self))
    | stop hresting _ => rfl
    | tick hresting _ => cases hresting.symm.trans hoff
    | pass hpassing _ => cases hpassing.symm.trans hoff
    | record hpassing _ => cases hpassing.symm.trans hoff
    | _ => exact hoff

/-- Once the scheduler is cancelled none of its steps starts a call, and stored tuples change in them
only through the writes that are in flight, each of them once at most. -/
theorem Orderly.lands (h : s.Orderly) (hc : s.world.schedulerCancelled = true)
    (hrun : History s log s') :
    ∃ landed : List (Option WriteCall),
      (own log).Forall₂ (fun step l => World.Lands step.1 l step.2) landed ∧
        (landed.reduceOption : Multiset WriteCall) + s'.inFlight ≤ s.inFlight ∧
        ((∀ e ∈ log, e.1 ≠ .others) → s.world.LandsAll landed.reduceOption s'.world) := by
  -- The history grows at its end, and the scheduler stays cancelled in it.
  suffices hall : s'.world.schedulerCancelled = true ∧ ∃ landed : List (Option WriteCall),
      (own log).Forall₂ (fun step l => World.Lands step.1 l step.2) landed ∧
        (landed.reduceOption : Multiset WriteCall) + s'.inFlight ≤ s.inFlight ∧
        ((∀ e ∈ log, e.1 ≠ .others) → s.world.LandsAll landed.reduceOption s'.world) from hall.2
  induction hrun with
  | refl => exact ⟨hc, [], .nil, (zero_add _).le, fun _ => ⟨rfl, rfl, rfl, rfl⟩⟩
  | @tail s₁ s' log deed hbefore hstep ih =>
    obtain ⟨hc₁, landed, hlands, hle, hall⟩ := ih
    have horderly := h.run hbefore
    refine ⟨horderly.cancelled hstep hc₁, ?_⟩
    by_cases hdeed : deed = .others
    · -- What others do is neither the scheduler's step nor one of its writes.
      subst hdeed
      cases hstep with
      | @beside w _ =>
        refine ⟨landed, ?_, hle, fun hnone => absurd rfl (hnone _ (List.mem_append_right _
          List.mem_cons_self))⟩
        rw [own, List.filterMap_append]
        exact (List.append_nil _).symm ▸ hlands
    · obtain ⟨l, hl, hle'⟩ := (horderly.heeds hstep hdeed).lands hc₁
      refine ⟨landed ++ [l], ?_, ?_, fun hnone => ?_⟩
      · have hown : own (log ++ [(deed, s₁.world, s'.world)]) =
            own log ++ [(s₁.world, s'.world)] := by
          rw [own, List.filterMap_append]
          cases deed <;> first | rfl | exact absurd rfl hdeed
        rw [hown]
        exact List.rel_append hlands (.cons hl .nil)
      · rw [List.reduceOption_append, ← Multiset.coe_add, add_assoc]
        refine le_trans (add_le_add_right ?_ _) hle
        cases l <;> exact hle'
      · have hbefore := hall fun e he => hnone e (List.mem_append_left _ he)
        rw [List.reduceOption_append]
        cases l <;> exact hbefore.step hl

end Scheduler

/-! ## Scenarios -/

section

variable {party other : Party} {w w' : World}

/-- No step of a strand takes a cancellation back. -/
theorem Strand.cancelled_of_moved {α : Type} {s s' : Strand α} (h : s.move w party = .moved w' s')
    (hc : w.cancelled other = true) : w'.cancelled other = true := by
  -- Calls alone touch the world, and carrying one on can only cancel.
  have hcarry : ∀ (c : Call) (stage : Stage) (deadline : Nat)
      (next : Verdict c.Result → Script Request Request.Answer α),
      (carryOn w c stage deadline next).1.cancelled other = true := fun c stage deadline next => by
    rw [(carryOn_eq w c stage deadline next).1]
    exact World.cancelled_progress hc c stage
  cases s with
  | ready p =>
    rw [move] at h
    split at h
    · cases h
    · cases h
      cases other <;> exact hc
    · split at h
      · cases h
        exact hc
      · cases h
        exact hcarry _ _ _ _
  | limited c stage wake deadline next =>
    rw [move] at h
    split at h
    · cases h
      exact hc
    · split at h
      · cases h
        exact hcarry _ _ _ _
      · split at h <;> cases h
        exact hc
  | unlimited c stage wake finish =>
    have hprogress := World.cancelled_progress hc c stage
    rw [move] at h
    split at h
    · split at h
      · cases h
      · next heq =>
        cases h
        rw [heq] at hprogress
        exact hprogress
    · cases h

/-- Neither does its end. -/
theorem Strand.cancelled_of_ended {α : Type} {s : Strand α} {a : α}
    (h : s.move w party = .ended w' a) (hc : w.cancelled other = true) :
    w'.cancelled other = true := by
  cases s with
  | ready p =>
    rw [move] at h
    split at h
    · cases h
      exact hc
    · cases h
    · split at h <;> cases h
  | limited c stage wake deadline next =>
    rw [move] at h
    split at h
    · cases h
    · split at h
      · cases h
      · split at h <;> cases h
  | unlimited c stage wake finish =>
    have hprogress := World.cancelled_progress hc c stage
    rw [move] at h
    split at h
    · split at h
      · next heq =>
        cases h
        rw [heq] at hprogress
        exact hprogress
      · cases h
    · cases h

/-- No step of a job takes a cancellation back. -/
theorem Job.cancelled_of_goes {j j' : Job} (h : j.Goes w w' j') (hc : w.cancelled other = true) :
    w'.cancelled other = true := by
  cases h with
  | single h => exact Strand.cancelled_of_moved h hc
  | triggered h => exact Strand.cancelled_of_moved h hc
  | full h =>
    cases h with
    | prepare h => exact Strand.cancelled_of_moved h hc
    | launch round h => exact Strand.cancelled_of_ended h hc
    | turn round round' h =>
      cases h with
      | advance _ h => exact Strand.cancelled_of_moved h hc
      | finish _ h => exact Strand.cancelled_of_ended h hc

/-- Neither does its end. -/
theorem Job.cancelled_of_ends {j : Job} {outcome : Outcome} (h : j.Ends w w' outcome)
    (hc : w.cancelled other = true) : w'.cancelled other = true := by
  cases h with
  | single h => exact Strand.cancelled_of_ended h hc
  | @triggered _ _ r h =>
    have hc' := Strand.cancelled_of_ended h hc
    cases r <;> cases other <;> exact hc'
  | @full w₁ party p r h =>
    have hc' : w₁.cancelled other = true := by
      cases h with
      | failed h => exact Strand.cancelled_of_ended h hc
      | reported h => exact hc
    split
    · cases other <;> exact hc'
    · exact hc'

end

/-- The pass of the scheduler that steps are at. -/
def Front.asked : Front → List Job
  | .working j => if j.heeded = .scheduler then [j] else []
  | _ => []

/-- Whether steps are at a shutdown that waits. -/
def Front.joins : Front → Nat
  | .joining => 1
  | _ => 0

namespace Course

variable {s s' : Course}

/-- The scheduler in a scenario. -/
def scheduler (s : Course) : Scheduler where
  world := s.world
  loop := s.loop
  stopping := s.stopping
  jobs := s.front.asked
  joining := s.front.joins

/-- What the steps do beside the scheduler is the doing of others. -/
theorem history_beside (hloop : s'.loop = s.loop) (hstopping : s'.stopping = s.stopping)
    (hasked : s'.front.asked = s.front.asked) (hjoins : s'.front.joins = s.front.joins)
    (hc : s.world.schedulerCancelled = true → s'.world.schedulerCancelled = true) :
    ∃ log, Scheduler.History s.scheduler log s'.scheduler := by
  have heq : s'.scheduler = { s.scheduler with world := s'.world } := by
    rw [scheduler, scheduler, hloop, hstopping, hasked, hjoins]
  exact ⟨_, heq ▸ (Scheduler.Step.beside hc).history⟩

/-- A step that begins is one of the scheduler's, or it is the doing of others. -/
theorem history_begin (hfront : s.front = .between) (step : Simulation.Step) :
    ∃ log, Scheduler.History s.scheduler log (s.begin step).scheduler := by
  have hasked : s.front.asked = [] := by rw [hfront]; rfl
  have hjoins : s.front.joins = 0 := by rw [hfront]; rfl
  -- A step is the doing of others unless it is one of four that the scheduler is asked for.
  have hothers : ∀ s' : Course, s'.loop = s.loop → s'.stopping = s.stopping → s'.front.asked = [] →
      s'.front.joins = 0 →
      (s.world.schedulerCancelled = true → s'.world.schedulerCancelled = true) →
      ∃ log, Scheduler.History s.scheduler log s'.scheduler :=
    fun s' hl hst ha hj => history_beside hl hst (ha.trans hasked.symm) (hj.trans hjoins.symm)
  have hask : ∀ e : Errand, e.heeded = .scheduler →
      ∃ log, Scheduler.History s.scheduler log (s.begin e.step).scheduler := by
    intro e he
    have heq : (s.begin e.step).scheduler =
        { s.scheduler with jobs := [] ++ e.job s.world :: [] } := by
      rw [e.begin_step, scheduler, scheduler, hjoins]
      simp only [Front.asked, Front.joins, e.heeded_job, he, if_true, List.nil_append]
    exact ⟨_, heq ▸ (Scheduler.Step.ask he hasked).history⟩
  cases step with
  | start =>
    rw [Course.begin]
    split
    · next hoff =>
      have heq : Course.scheduler { s.conclude s.world .nothing with
            loop := .resting s.world.now, stopping := false } =
          { s.scheduler with loop := .resting s.world.now, stopping := false } := by
        simp only [scheduler, hasked, hjoins]
        rfl
      exact ⟨_, heq ▸ (Scheduler.Step.start (s := s.scheduler) hoff).history⟩
    · exact hothers _ rfl rfl rfl rfl id
  | shutdown =>
    have heq : (s.begin .shutdown).scheduler = { s.scheduler with
        world := { s.world with schedulerCancelled := true }
        stopping := true
        joining := s.scheduler.joining + 1 } := by
      simp only [scheduler, hasked, hjoins]
      rfl
    exact ⟨_, heq ▸ (Scheduler.Step.shutdown (s := s.scheduler)).history⟩
  | runOnce => exact hask .runOnce rfl
  | trigger tenant => exact hask (.trigger tenant) rfl
  | holdSnapshot name =>
    simp only [Course.begin]
    split
    · exact hothers _ rfl rfl rfl rfl id
    · exact hothers _ rfl rfl rfl rfl id
  | _ => exact hothers _ rfl rfl rfl rfl id

/-- A step of a scenario is steps of its scheduler and of others. -/
theorem history_step (hstep : Step s s') :
    ∃ log, Scheduler.History s.scheduler log s'.scheduler := by
  cases hstep with
  | @begin step rest hfront hsteps => exact @history_begin { s with steps := rest } hfront step
  | wake hfront hwake =>
    exact history_beside rfl rfl (by rw [hfront]; rfl) (by rw [hfront]; rfl) id
  | @work w j j' hfront hgoes =>
    have hkeeps : s.world.cancelled .scheduler = true → w.cancelled .scheduler = true :=
      Job.cancelled_of_goes hgoes
    -- Whether the pass is the scheduler's depends on the party that it heeds.
    by_cases hheeded : j.heeded = .scheduler
    · have hjobs : s.scheduler.jobs = [] ++ j :: [] := by
        simp only [scheduler, hfront, Front.asked, hheeded, if_true, List.nil_append]
      have heq : Course.scheduler { s with world := w, front := .working j' } =
          { s.scheduler with world := w, jobs := [] ++ j' :: [] } := by
        simp only [scheduler, hfront, Front.asked, Front.joins, Job.heeded_of_goes hgoes, hheeded,
          if_true, List.nil_append]
      exact ⟨_, heq ▸ (Scheduler.Step.go hjobs hgoes).history⟩
    · refine history_beside rfl rfl ?_ (by rw [hfront]; rfl) hkeeps
      simp only [hfront, Front.asked, Job.heeded_of_goes hgoes, if_neg hheeded]
  | @conclude w j outcome hfront hends =>
    have hkeeps : s.world.cancelled .scheduler = true → w.cancelled .scheduler = true :=
      Job.cancelled_of_ends hends
    by_cases hheeded : j.heeded = .scheduler
    · have hjobs : s.scheduler.jobs = [] ++ j :: [] := by
        simp only [scheduler, hfront, Front.asked, hheeded, if_true, List.nil_append]
      have heq : (s.conclude w outcome).scheduler =
          { s.scheduler with world := w, jobs := [] ++ [] } := by
        simp only [scheduler, hfront, Front.asked, Front.joins, List.nil_append]
        rfl
      exact ⟨_, heq ▸ (Scheduler.Step.leave hjobs hends).history⟩
    · refine history_beside rfl rfl ?_ (by rw [hfront]; rfl) hkeeps
      simp only [hfront, Front.asked, if_neg hheeded]
      rfl
  | join hfront hloop =>
    have hjoining : s.scheduler.joining = 0 + 1 := by
      simp only [scheduler, hfront, Front.joins]
    have heq : (s.conclude s.world .nothing).scheduler = { s.scheduler with joining := 0 } := by
      simp only [scheduler, hfront, Front.asked]
      rfl
    exact ⟨_, heq ▸ (Scheduler.Step.join hjoining hloop).history⟩
  | stop hloop hstop => exact ⟨_, (Scheduler.Step.stop (s := s.scheduler) hloop hstop).history⟩
  | tick hloop htick => exact ⟨_, (Scheduler.Step.tick (s := s.scheduler) hloop htick).history⟩
  | pass hloop hgoes => exact ⟨_, (Scheduler.Step.pass (s := s.scheduler) hloop hgoes).history⟩
  | record hloop hends =>
    exact ⟨_, (Scheduler.Step.record (s := s.scheduler) hloop hends).history⟩
  | elapse hnow => exact ⟨_, (Scheduler.Step.elapse (s := s.scheduler) hnow).history⟩
  | turn loopsTurn => exact ⟨[], .refl _⟩

/-- What happens in a scenario is a history of the scheduler. -/
theorem exists_history (h : ReflTransGen Step s s') :
    ∃ log, Scheduler.History s.scheduler log s'.scheduler := by
  induction h with
  | refl => exact ⟨[], .refl _⟩
  | tail _ hstep ih =>
    obtain ⟨log, hbefore⟩ := ih
    obtain ⟨log', hafter⟩ := history_step hstep
    exact ⟨log ++ log', hbefore.trans hafter⟩

end Course

end PolicySync.Simulation
