import Mathlib.Logic.Relation
import PolicySync.Proofs.Pass.Fleets
import PolicySync.Simulation.Scenario

/-!
# Steps in any order

Where several could go on, the simulation picks one. The relations here leave the choice open: any
running pass of a fleet may take the next step (`FullPass.Goes`), a job runs on while the world
changes beside it (`Job.Run`), and in a scenario the steps, the scheduler's loop and the clock come
in any order (`Course.Step`). The simulation is one of their runs (`Course.steps_move`).
-/

namespace PolicySync.Simulation

open Relation (ReflTransGen)

variable {party : Party} {w w' : World}

/-! ## Full passes -/

/-- The pass of a tenant takes a step. -/
def Strand.Goes {α : Type} (party : Party) (_ : String) (w : World) (s : Strand α) (w' : World)
    (s' : Strand α) : Prop :=
  s.move w party = .moved w' s'

/-- The pass of a tenant has come to its end. -/
def Strand.Stops {α : Type} (party : Party) (_ : String) (w : World) (s : Strand α) (w' : World)
    (a : α) : Prop :=
  s.move w party = .ended w' a

namespace FullPass

/-- A full pass takes a step: any one of the tenants' passes that run. -/
inductive Goes (party : Party) : World → FullPass → World → FullPass → Prop where
  | prepare {w w' : World} {s s' : Strand (Except PassError (Snapshot × List String))}
      (h : s.move w party = .moved w' s') : Goes party w (.preparing s) w' (.preparing s')
  | launch {w w' : World} {s : Strand (Except PassError (Snapshot × List String))}
      {snapshot : Snapshot} {tenants : List String} (round : Round)
      (h : s.move w party = .ended w' (.ok (snapshot, tenants))) :
      Goes party w (.preparing s) w' (.running snapshot (.launch (tenantStrand w'.settings snapshot)
        w'.settings.tenantConcurrency tenants) round)
  | turn {w w' : World} {snapshot : Snapshot}
      {fleet fleet' : Fleet (Strand (Except PassError TenantReport))} (round round' : Round)
      (h : Fleet.Turn (Strand.Goes party) (Strand.Stops party) (tenantStrand w.settings snapshot)
        (w, fleet) (w', fleet')) :
      Goes party w (.running snapshot fleet round) w' (.running snapshot fleet' round')

/-- A full pass has come to its end. -/
inductive Ends (party : Party) : World → FullPass → World → Except PassError PassReport → Prop where
  | failed {w w' : World} {s : Strand (Except PassError (Snapshot × List String))} {e : PassError}
      (h : s.move w party = .ended w' (.error e)) : Ends party w (.preparing s) w' (.error e)
  | reported {w : World} {snapshot : Snapshot}
      {fleet : Fleet (Strand (Except PassError TenantReport))} {round : Round} {report : PassReport}
      (h : fleet.report? = some report) :
      Ends party w (.running snapshot fleet round) w (.ok report)

/-- The pass that the simulation picks is one of those that run. -/
private theorem turn_of_moveFleet {start : String → Strand (Except PassError TenantReport)}
    {fleet fleet' : Fleet (Strand (Except PassError TenantReport))} {round round' : Round} {i : Nat}
    {rest : List (String × Strand (Except PassError TenantReport))}
    (hrest : fleet.running.drop i = rest)
    (h : moveFleet w party start fleet round i rest = some (w', fleet', round')) :
    Fleet.Turn (Strand.Goes party) (Strand.Stops party) start (w, fleet) (w', fleet') := by
  induction rest generalizing i with
  | nil => cases h
  | cons e rest ih =>
    have hi : fleet.running[i]? = some (e.1, e.2) := by
      rw [← List.head?_drop, hrest, List.head?_cons]
    rw [moveFleet] at h
    split at h
    · refine ih ?_ h
      rw [← List.drop_drop, hrest, List.drop_one, List.tail_cons]
    · next w₁ s hmove =>
      cases h
      exact .advance hi hmove
    · next w₁ r hmove =>
      cases h
      exact .finish hi hmove

/-- What the simulation does to a full pass is a step of it. -/
theorem goes_of_move {p p' : FullPass} (h : p.move w party = .moved w' p') :
    Goes party w p w' p' := by
  cases p with
  | preparing s =>
    rw [move] at h
    split at h
    · cases h
    · next hmove => cases h; exact .prepare hmove
    · cases h
    · next hmove => cases h; exact .launch _ hmove
  | running snapshot fleet round =>
    rw [move] at h
    split at h
    · cases h
    · split at h
      · cases h
      · next hmove => cases h; exact .turn _ _ (turn_of_moveFleet List.drop_zero hmove)

/-- What the simulation takes for the end of a full pass is one. -/
theorem ends_of_move {p : FullPass} {r : Except PassError PassReport}
    (h : p.move w party = .ended w' r) : Ends party w p w' r := by
  cases p with
  | preparing s =>
    rw [move] at h
    split at h
    · cases h
    · cases h
    · next hmove => cases h; exact .failed hmove
    · cases h
  | running snapshot fleet round =>
    rw [move] at h
    split at h
    · next hreport => cases h; exact .reported hreport
    · split at h <;> cases h

end FullPass

/-! ## Jobs -/

namespace Job

/-- A job takes a step. -/
inductive Goes : World → Job → World → Job → Prop where
  | single {w w' : World} {party : Party} {s s' : Strand Outcome}
      (h : s.move w party = .moved w' s') : Goes w (.single party s) w' (.single party s')
  | triggered {w w' : World} {s s' : Strand (Except PassError TenantReport)}
      (h : s.move w .scheduler = .moved w' s') : Goes w (.triggered s) w' (.triggered s')
  | full {w w' : World} {party : Party} {p p' : FullPass} (h : p.Goes party w w' p') :
      Goes w (.full party p) w' (.full party p')

/-- A job has come to its end. -/
inductive Ends : World → Job → World → Outcome → Prop where
  | single {w w' : World} {party : Party} {s : Strand Outcome} {outcome : Outcome}
      (h : s.move w party = .ended w' outcome) : Ends w (.single party s) w' outcome
  | triggered {w w' : World} {s : Strand (Except PassError TenantReport)}
      {r : Except PassError TenantReport} (h : s.move w .scheduler = .ended w' r) :
      Ends w (.triggered s) (w'.recordTriggered r) (.ofExcept .report r)
  | full {w w' : World} {party : Party} {p : FullPass} {r : Except PassError PassReport}
      (h : p.Ends party w w' r) :
      Ends w (.full party p) (if party = .scheduler then w'.recordFull r else w')
        (.ofExcept .pass r)

/-- What it does to a job is a step of it. -/
theorem goes_of_move {j j' : Job} (h : j.move w = .moved w' j') : Goes w j w' j' := by
  cases j <;> rw [move] at h <;> split at h
  all_goals first | cases h; done | skip
  · next hmove => cases h; exact .single hmove
  · next hmove => cases h; exact .triggered hmove
  · next hmove => cases h; exact .full (FullPass.goes_of_move hmove)

/-- What it takes for the end of a job is one. -/
theorem ends_of_move {j : Job} {outcome : Outcome} (h : j.move w = .ended w' outcome) :
    Ends w j w' outcome := by
  cases j <;> rw [move] at h <;> split at h
  all_goals first | cases h; done | skip
  · next hmove => cases h; exact .single hmove
  · next hmove => cases h; exact .triggered hmove
  · next hmove => cases h; exact .full (FullPass.ends_of_move hmove)

/-- A job runs on, and may end. Between its steps, each with the worlds before and after it, the
world changes in any way in which a cancelled party stays cancelled. -/
inductive Run (party : Party) :
    World → Job → List (World × World) → World → Option Job → Prop where
  | stay {w : World} {j : Job} : Run party w j [] w (some j)
  | go {w w₁ w' : World} {j j₁ : Job} {log : List (World × World)} {j' : Option Job}
      (h : j.Goes w w₁ j₁) (hrest : Run party w₁ j₁ log w' j') :
      Run party w j ((w, w₁) :: log) w' j'
  | beside {w w₁ w' : World} {j : Job} {log : List (World × World)} {j' : Option Job}
      (h : w.cancelled party = true → w₁.cancelled party = true)
      (hrest : Run party w₁ j log w' j') : Run party w j log w' j'
  | finish {w w' : World} {j : Job} {outcome : Outcome} (h : j.Ends w w' outcome) :
      Run party w j [(w, w')] w' none

/-- A run goes on from where another one has come. -/
theorem Run.trans {w₁ : World} {j j₁ : Job} {j' : Option Job} {log log' : List (World × World)}
    (h : Run party w j log w₁ (some j₁)) (h' : Run party w₁ j₁ log' w' j') :
    Run party w j (log ++ log') w' j' := by
  generalize hmiddle : some j₁ = middle at h
  induction h with
  | stay =>
    cases hmiddle
    exact h'
  | go h _ ih => exact .go h (ih h' hmiddle)
  | beside h _ ih => exact .beside h (ih h' hmiddle)
  | finish _ => cases hmiddle

/-- A job after at most a number of moves of its own. -/
def goOn : Nat → World → Job → World × Job
  | 0, w, j => (w, j)
  | n + 1, w, j =>
    match j.move w with
    | .moved w j => goOn n w j
    | _ => (w, j)

/-- Moves of a job alone are a run of it. -/
theorem run_goOn (party : Party) (n : Nat) (w : World) (j : Job) :
    ∃ log, Run party w j log (j.goOn n w).1 (some (j.goOn n w).2) := by
  induction n generalizing w j with
  | zero => exact ⟨[], .stay⟩
  | succ n ih =>
    rw [goOn]
    split
    · next w₁ j₁ hmove =>
      obtain ⟨log, hlog⟩ := ih w₁ j₁
      exact ⟨_, .go (goes_of_move hmove) hlog⟩
    · exact ⟨[], .stay⟩

end Job

/-! ## Scenarios -/

namespace Course

/-- A scenario before its first step. -/
def start (world : World) (steps : List Simulation.Step) : Course := { world, steps }

/-- A step of a scenario: of the steps, of the scheduler's loop or of the clock. A loop that has
been asked to stop may still take a tick first. -/
inductive Step : Course → Course → Prop where
  | begin {s : Course} {step : Simulation.Step} {rest : List Simulation.Step}
      (hfront : s.front = .between) (hsteps : s.steps = step :: rest) :
      Step s ({ s with steps := rest }.begin step)
  | wake {s : Course} {wake : Nat} (hfront : s.front = .sleeping wake)
      (hwake : wake ≤ s.world.now) : Step s (s.conclude s.world .nothing)
  | work {s : Course} {w : World} {j j' : Job} (hfront : s.front = .working j)
      (h : j.Goes s.world w j') : Step s { s with world := w, front := .working j' }
  | conclude {s : Course} {w : World} {j : Job} {outcome : Outcome} (hfront : s.front = .working j)
      (h : j.Ends s.world w outcome) : Step s (s.conclude w outcome)
  | join {s : Course} (hfront : s.front = .joining) (hloop : s.loop = .off) :
      Step s (s.conclude s.world .nothing)
  | stop {s : Course} {tick : Nat} (hloop : s.loop = .resting tick) (hstop : s.stopping = true) :
      Step s { s with loop := .off }
  | tick {s : Course} {tick : Nat} (hloop : s.loop = .resting tick) (htick : tick ≤ s.world.now) :
      Step s { s with
        loop := .passing (.start s.world.settings)
          (nextTick tick s.world.now s.world.settings.interval) }
  | pass {s : Course} {w : World} {p p' : FullPass} {tick : Nat} (hloop : s.loop = .passing p tick)
      (h : p.Goes .scheduler s.world w p') :
      Step s { s with world := w, loop := .passing p' tick }
  | record {s : Course} {w : World} {p : FullPass} {tick : Nat} {r : Except PassError PassReport}
      (hloop : s.loop = .passing p tick) (h : p.Ends .scheduler s.world w r) :
      Step s { s with world := w.recordFull r, loop := .resting tick }
  | elapse {s : Course} {now : Nat} (h : s.world.now ≤ now) :
      Step s { s with world := { s.world with now } }
  | turn {s : Course} (loopsTurn : Bool) : Step s { s with loopsTurn }

variable {s s' : Course}

/-- What the steps do. -/
theorem steps_moveFront (h : s.moveFront = some s') : ReflTransGen Step s s' := by
  rw [moveFront] at h
  split at h
  · next hfront =>
    split at h
    · cases h
    · next hsteps => cases h; exact .single (.begin hfront hsteps)
  · next hfront =>
    split at h
    · next hwake => cases h; exact .single (.wake hfront hwake)
    · cases h
  · next hfront =>
    split at h
    · cases h
    · next hmove =>
      cases h
      exact .tail (.single (.work hfront (Job.goes_of_move hmove))) (.turn _)
    · next hmove => cases h; exact .single (.conclude hfront (Job.ends_of_move hmove))
  · next hfront =>
    split at h
    · next hloop => cases h; exact .single (.join hfront hloop)
    · cases h

/-- What the loop does. -/
theorem steps_moveLoop (h : s.moveLoop = some s') : ReflTransGen Step s s' := by
  rw [moveLoop] at h
  split at h
  · cases h
  · next hloop =>
    split at h
    · next hstop => cases h; exact .single (.stop hloop hstop)
    · split at h
      · next htick => cases h; exact .single (.tick hloop htick)
      · cases h
  · next hloop =>
    split at h
    · cases h
    · next hmove => cases h; exact .single (.pass hloop (FullPass.goes_of_move hmove))
    · next hmove => cases h; exact .single (.record hloop (FullPass.ends_of_move hmove))

/-- What either does in its turn. -/
theorem steps_moveInTurn (h : s.moveInTurn = some s') : ReflTransGen Step s s' := by
  rw [moveInTurn] at h
  split at h
  · exact steps_moveLoop h
  · exact steps_moveFront h

/-- What the simulation does is steps of the scenario. -/
theorem steps_move (s : Course) : ReflTransGen Step s s.move := by
  rw [move]
  split
  · next s' h =>
    cases hmove : s.moveInTurn with
    | some s₁ =>
      rw [hmove] at h
      cases h
      exact steps_moveInTurn hmove
    | none =>
      rw [hmove] at h
      exact .head (.turn (!s.loopsTurn)) (steps_moveInTurn h)
  · split
    · next t _ => exact .tail (.single (.elapse (le_max_left _ t))) (.turn false)
    · exact .refl

/-- A whole run of the simulation is steps of the scenario. -/
theorem steps_run (fuel : Nat) (s : Course) : ReflTransGen Step s (s.run fuel) := by
  induction fuel generalizing s with
  | zero => exact .refl
  | succ fuel ih =>
    rw [run]
    split
    · exact .refl
    · exact (steps_move s).trans (ih s.move)

end Course

end PolicySync.Simulation
