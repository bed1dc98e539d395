import PolicySync.Health
import PolicySync.Memory.Lister
import PolicySync.Memory.Store
import PolicySync.Simulation.Clock
import PolicySync.Simulation.Fault

/-!
# The simulated world

A world holds the backends in memory, the faults laid on their calls, a clock in milliseconds, and
what passes leave behind: the current snapshot and the health. `World.progress` takes a call one
stage further: it ends with a result, or it has to wait until a later time.
-/

namespace PolicySync.Simulation

/-- Whose cancellation a pass heeds. -/
inductive Party where
  | caller
  | scheduler
  deriving DecidableEq, Repr

/-- How many calls of each method have been made. -/
structure Tally where
  list : Nat := 0
  tenants : Nat := 0
  openStore : Nat := 0
  read : Nat := 0
  write : Nat := 0

namespace Tally

/-- One more call of a method, and its number. -/
def count (t : Tally) : Method → Nat × Tally
  | .list => (t.list + 1, { t with list := t.list + 1 })
  | .tenants => (t.tenants + 1, { t with tenants := t.tenants + 1 })
  | .openStore => (t.openStore + 1, { t with openStore := t.openStore + 1 })
  | .read => (t.read + 1, { t with read := t.read + 1 })
  | .write => (t.write + 1, { t with write := t.write + 1 })

end Tally

/-- Everything that calls and passes read and change. -/
structure World where
  settings : PassSettings := {}
  faults : List (Method × Nat × Fault) := []
  lister : Memory.Lister := {}
  store : Memory.Store := {}
  tally : Tally := {}
  now : Nat := 0
  /-- Whether the callers' current passes are cancelled. -/
  callerCancelled : Bool := false
  /-- Whether the scheduler has been shut down. -/
  schedulerCancelled : Bool := false
  /-- The published snapshot. -/
  snapshot : Option Snapshot := none
  /-- Snapshots kept under a name. -/
  held : List (String × Snapshot) := []
  health : Health := {}

/-- How far a call has come. -/
inductive Stage where
  /-- Not begun. -/
  | fresh
  /-- Waiting out the delay of a fault. -/
  | delayed (fault : Fault)
  /-- A write call of a number that has arrived but has not had its effect. -/
  | settling (number : Nat) (fault : Fault)

/-- A call that ends with a result, or waits at a stage until a time. -/
inductive Progress (c : Call) where
  | ended (result : c.Result)
  | waits (stage : Stage) (wake : Nat)

namespace World

/-- Whether the passes of a party are cancelled. -/
def cancelled (w : World) : Party → Bool
  | .caller => w.callerCancelled
  | .scheduler => w.schedulerCancelled

/-- The fault on the call of a number. -/
def faultOf (w : World) (m : Method) (number : Nat) : Fault :=
  match w.faults.find? fun f => f.1 = m && f.2.1 = number with
  | some f => f.2.2
  | none => {}

/-- Cancel the callers' passes if a fault says so. -/
def cancelIf (w : World) (b : Bool) : World :=
  if b then { w with callerCancelled := true } else w

/-- A call reached its backend and was answered: the fault has its last say. -/
def answer (w : World) (c : Call) (fault : Fault) (r : c.Result) : World × Progress c :=
  (w.cancelIf fault.cancelAfter, .ended (fault.adjust c r))

/-- A call reaches its backend, unless its fault makes it fail first. A failing listing is counted
all the same. -/
def enter (w : World) (c : Call) (fault : Fault) : World × Progress c :=
  match c with
  | .list kind tenant limit token =>
    let (r, lister) := w.lister.list ⟨kind, tenant⟩ limit token
    answer { w with lister } (.list kind tenant limit token) fault r
  | .tenants => w.answer .tenants fault (.ok w.lister.tenants)
  | .openStore tenant =>
    match fault.failure? (.openStore tenant) with
    | some r => w.answer (.openStore tenant) fault r
    | none =>
      let (id, store) := w.store.getOrCreate tenant
      answer { w with store } (.openStore tenant) fault (.ok id)
  | .read store limit token =>
    w.answer (.read store limit token) fault (w.store.read store limit token)
  | .write id batch =>
    match fault.failure? (.write id batch) with
    | some r => w.answer (.write id batch) fault r
    | none =>
      let (number, wait, store) := w.store.arrive id batch
      let w := { w with store }
      if wait = 0 then
        let (r, store) := w.store.finish number id batch
        answer { w with store } (.write id batch) fault r
      else (w, .waits (.settling number fault) (alarm w.now wait))

/-- A call goes on from a stage. -/
def progress (w : World) (c : Call) : Stage → World × Progress c
  | .fresh =>
    let (number, tally) := w.tally.count (method c)
    let fault := w.faultOf (method c) number
    let w := cancelIf { w with tally } fault.cancelBefore
    if fault.delay = 0 then w.enter c fault
    else (w, .waits (.delayed fault) (alarm w.now fault.delay))
  | .delayed fault => w.enter c fault
  | .settling number fault =>
    match c with
    | .write id batch =>
      let (r, store) := w.store.finish number id batch
      answer { w with store } (.write id batch) fault r
    | c => w.enter c fault

end World

end PolicySync.Simulation
