import PolicySync.Simulation.Strand

/-!
# Scenarios

A scenario is a list of steps taken one after the other, while the scheduler's loop may run beside
them. Both share the world and its clock. Each runs until it has to wait, then the other runs, and
when both wait the clock goes straight to the next time at which one of them can go on; then the
steps come first. Nothing else takes time. The steps also let the loop run when a call of theirs has
cancelled their passes and waits.
-/

namespace PolicySync.Simulation

/-- One step of a scenario. -/
inductive Step where
  | upsert (resources : List Resource)
  | remove (shelf : Memory.Shelf) (name : String)
  | setTenants (tenants : List String)
  /-- A call that no pass makes. -/
  | call (c : Call)
  | listings
  | seed (tenant : String) (tuples : List Tuple)
  | stored (tenant : String)
  | failWrite (number : Nat)
  | delayWrite (number milliseconds : Nat)
  | writeCalls
  | cancel
  | renewToken
  | sleep (milliseconds : Nat)
  | now
  | buildSnapshot
  | fetchDesired (tenant : String)
  | readActual (store : String)
  | apply (tenant store : String) (diff : TupleDiff) (batchSize limit : Nat)
  | refreshSnapshot
  | currentSnapshot
  | holdSnapshot (name : String)
  | heldSnapshot (name : String)
  | reconcile (tenant : String)
  | reconcileTenant (tenant : String) (held : Option String)
  | tenants
  | reconcileAll
  | start
  | shutdown
  | runOnce
  | trigger (tenant : String)
  | health

/-- What a step leads to. -/
inductive Outcome where
  | nothing
  | number (n : Nat)
  | name (s : String)
  | names (ss : List String)
  | resources (page : Page Resource)
  | tuplePage (page : Page Tuple)
  | tuples (ts : List Tuple)
  | writeCalls (calls : List Memory.WriteCall)
  | batches (n : Nat)
  | snapshot (s : Snapshot)
  | maybeSnapshot (s : Option Snapshot)
  | report (r : TenantReport)
  | pass (r : PassReport)
  | health (h : Health)
  | passError (e : PassError)
  | listError (e : ListError)
  | storeError (e : StoreError)
  | noSnapshot
  deriving Inhabited

namespace Outcome

/-- The outcome of a pass whose results are outcomes. -/
def ofExcept (f : α → Outcome) : Except PassError α → Outcome
  | .ok a => f a
  | .error e => passError e

/-- The outcome of a call that no pass makes. -/
def ofResult : (c : Call) → c.Result → Outcome
  | .list _ _ _ _, r => match r with
    | .ok page => resources page
    | .error e => listError e
  | .tenants, r => match r with
    | .ok ts => names ts
    | .error e => listError e
  | .openStore _, r => match r with
    | .ok id => name id
    | .error e => storeError e
  | .read _ _ _, r => match r with
    | .ok page => tuplePage page
    | .error e => storeError e
  | .write _ _, r => match r with
    | .ok _ => nothing
    | .error e => storeError e

end Outcome

/-- The work of a step that may take time. -/
inductive Job : Type 1 where
  /-- A call or a pass. -/
  | single (party : Party) (s : Strand Outcome)
  /-- A pass of one tenant that counts for the health. -/
  | triggered (s : Strand (Except PassError TenantReport))
  /-- A full pass; that of the scheduler counts for the health. -/
  | full (party : Party) (p : FullPass)

namespace World

/-- A triggered pass is recorded. -/
def recordTriggered (w : World) (r : Except PassError TenantReport) : World :=
  match r with
  | .ok _ => { w with health := w.health.record true none }
  | .error e => { w with health := w.health.record false (some e.message) }

/-- A full pass of the scheduler is recorded. -/
def recordFull (w : World) (r : Except PassError PassReport) : World :=
  let failure := PassReport.failureText? r
  { w with health := w.health.record failure.isNone failure }

end World

namespace Job

/-- One step of a job. -/
def move (w : World) : Job → Move Job Outcome
  | single party s =>
    match s.move w party with
    | .stuck => .stuck
    | .moved w s => .moved w (single party s)
    | .ended w outcome => .ended w outcome
  | triggered s =>
    match s.move w .scheduler with
    | .stuck => .stuck
    | .moved w s => .moved w (triggered s)
    | .ended w r => .ended (w.recordTriggered r) (.ofExcept .report r)
  | full party p =>
    match p.move w party with
    | .stuck => .stuck
    | .moved w p => .moved w (full party p)
    | .ended w r =>
      .ended (if party = .scheduler then w.recordFull r else w) (.ofExcept .pass r)

/-- Whether a job lets the scheduler's loop go first although it could go on. -/
def yields (w : World) : Job → Bool
  | single party s => s.isGivingUp w party
  | triggered s => s.isGivingUp w .scheduler
  | full party p => p.yields w party

/-- The next time at which a waiting job can go on. -/
def wake? : Job → Option Nat
  | single _ s => s.wake?
  | triggered s => s.wake?
  | full _ p => p.wake?

end Job

/-- What the steps are at. -/
inductive Front : Type 1 where
  /-- Before the next step. -/
  | between
  | sleeping (wake : Nat)
  | working (job : Job)
  /-- Waiting for the scheduler's loop to end. -/
  | joining

/-- What the scheduler's loop is at. -/
inductive Loop : Type 1 where
  | off
  /-- Until the next tick. -/
  | resting (tick : Nat)
  /-- In a full pass, with the time of the tick that follows. -/
  | passing (p : FullPass) (tick : Nat)

/-- How far a scenario has come. -/
structure Course : Type 1 where
  world : World
  steps : List Step
  front : Front := .between
  loop : Loop := .off
  /-- Whether the loop has been asked to stop. -/
  stopping : Bool := false
  /-- Whether it is the loop's turn. -/
  loopsTurn : Bool := false
  /-- The outcomes so far, last one first. -/
  outcomes : List Outcome := []

namespace Course

/-- How late a tick may be, in milliseconds, and still leave the next one at its time. -/
def tickTolerance : Nat := 5

/-- The tick after one that was due at a time and is taken at another. A tick that is too late
puts off all that follow. -/
def nextTick (due now interval : Nat) : Nat :=
  alarm (if due + tickTolerance < now then now else due) interval

/-- A step is over. -/
def conclude (s : Course) (w : World) (outcome : Outcome) : Course :=
  { s with world := w, front := .between, outcomes := outcome :: s.outcomes }

/-- A step sets out on a pass for the callers. -/
def setOut (s : Course) (p : Pass α) (f : α → Outcome) : Course :=
  { s with front := .working (.single .caller
      (.ready (p.bind fun r => .done (Outcome.ofExcept f r)))) }

/-- Begin a step. -/
def begin (s : Course) (step : Step) : Course :=
  let w := s.world
  let settings := w.settings
  match step with
  | .upsert rs => s.conclude { w with lister := rs.foldl (·.upsert) w.lister } .nothing
  | .remove shelf name => s.conclude { w with lister := w.lister.remove shelf name } .nothing
  | .setTenants ts => s.conclude { w with lister := w.lister.setTenants ts } .nothing
  | .call c =>
    { s with front := .working (.single .caller (.unlimited c .fresh w.now (.ofResult c))) }
  | .listings => s.conclude w (.number w.lister.listings)
  | .seed tenant ts => s.conclude { w with store := w.store.seed tenant ts } .nothing
  | .stored tenant => s.conclude w (.tuples (w.store.tuplesOf tenant).values)
  | .failWrite n => s.conclude { w with store := w.store.failCall n } .nothing
  | .delayWrite n ms => s.conclude { w with store := w.store.delayCall n ms } .nothing
  | .writeCalls => s.conclude w (.writeCalls w.store.calls)
  | .cancel => s.conclude { w with callerCancelled := true } .nothing
  | .renewToken => s.conclude { w with callerCancelled := false } .nothing
  | .sleep ms => { s with front := .sleeping (alarm w.now ms) }
  | .now => s.conclude w (.number w.now)
  | .buildSnapshot => s.setOut (Pass.buildSnapshot settings) .snapshot
  | .fetchDesired tenant =>
    s.setOut (Pass.desiredTuples settings tenant (w.snapshot.getD {})) fun set => .tuples set.values
  | .readActual store => s.setOut (Pass.actualTuples settings store) fun set => .tuples set.values
  | .apply tenant store diff batchSize limit =>
    s.setOut (Pass.writeDiff tenant store diff batchSize limit) fun summary =>
      .batches summary.batches
  | .refreshSnapshot => s.setOut (Pass.refreshSnapshot settings) .snapshot
  | .currentSnapshot => s.conclude w (.maybeSnapshot w.snapshot)
  | .holdSnapshot name =>
    match w.snapshot with
    | some snapshot => s.conclude { w with held := (name, snapshot) :: w.held } .nothing
    | none => s.conclude w .noSnapshot
  | .heldSnapshot name => s.conclude w (.maybeSnapshot (w.held.lookup name))
  | .reconcile tenant => s.setOut (Pass.reconcile settings tenant) .report
  | .reconcileTenant tenant held =>
    let snapshot := (held.bind fun name => w.held.lookup name).getD {}
    s.setOut (Pass.reconcileTenant settings snapshot tenant) .report
  | .tenants => s.setOut (Pass.tenants settings) .names
  | .reconcileAll => { s with front := .working (.full .caller (.start settings)) }
  | .start =>
    match s.loop with
    | .off => { s.conclude w .nothing with loop := .resting w.now, stopping := false }
    | _ => s.conclude w .nothing
  | .shutdown =>
    { s with world := { w with schedulerCancelled := true }, stopping := true, front := .joining }
  | .runOnce => { s with front := .working (.full .scheduler (.start settings)) }
  | .trigger tenant =>
    { s with front := .working (.triggered (.ready (Pass.reconcile settings tenant))) }
  | .health => s.conclude w (.health w.health)

/-- One move of the steps, if they can move. -/
def moveFront (s : Course) : Option Course :=
  match s.front with
  | .between =>
    match s.steps with
    | [] => none
    | step :: rest => some ({ s with steps := rest }.begin step)
  | .sleeping wake => if wake ≤ s.world.now then some (s.conclude s.world .nothing) else none
  | .working job =>
    match job.move s.world with
    | .stuck => none
    | .moved w job =>
      some { s with world := w, front := .working job, loopsTurn := job.yields w }
    | .ended w outcome => some (s.conclude w outcome)
  | .joining =>
    match s.loop with
    | .off => some (s.conclude s.world .nothing)
    | _ => none

/-- One move of the scheduler's loop, if it can move. A request to stop goes before a tick. -/
def moveLoop (s : Course) : Option Course :=
  match s.loop with
  | .off => none
  | .resting tick =>
    if s.stopping then some { s with loop := .off }
    else if tick ≤ s.world.now then
      let next := nextTick tick s.world.now s.world.settings.interval
      some { s with loop := .passing (.start s.world.settings) next }
    else none
  | .passing p tick =>
    match p.move s.world .scheduler with
    | .stuck => none
    | .moved w p => some { s with world := w, loop := .passing p tick }
    | .ended w r => some { s with world := w.recordFull r, loop := .resting tick }

/-- The next time at which something can go on. -/
def wake? (s : Course) : Option Nat :=
  let front :=
    match s.front with
    | .sleeping wake => some wake
    | .working job => job.wake?
    | _ => none
  let loop :=
    match s.loop with
    | .off => none
    | .resting tick => some tick
    | .passing p _ => p.wake?
  earlier? front loop

/-- Whether every step is over. -/
def isOver (s : Course) : Bool :=
  match s.front with
  | .between => s.steps.isEmpty
  | _ => false

/-- One move of whoever's turn it is, if that one can move. -/
def moveInTurn (s : Course) : Option Course := if s.loopsTurn then s.moveLoop else s.moveFront

/-- The turn passes to the other. -/
def passTurn (s : Course) : Course := { s with loopsTurn := !s.loopsTurn }

/-- One move of whoever's turn it is, of the other if that one waits, or of the clock. -/
def move (s : Course) : Course :=
  match s.moveInTurn.orElse fun _ => s.passTurn.moveInTurn with
  | some s => s
  | none =>
    match s.wake? with
    | some t => { s with world := { s.world with now := max s.world.now t }, loopsTurn := false }
    | none => s

/-- The simulation after at most a number of moves. -/
def run : Nat → Course → Course
  | 0, s => s
  | fuel + 1, s => if s.isOver then s else run fuel s.move

end Course

/-- The outcomes of the steps of a scenario that takes at most `fuel` moves. -/
def outcomes (fuel : Nat) (world : World) (steps : List Step) : List Outcome :=
  ((Course.mk world steps .between .off false false []).run fuel).outcomes.reverse

end PolicySync.Simulation
