import PolicySync.Pass.Fleet
import PolicySync.Simulation.World

/-!
# Strands

A strand is a script on its way: it is about to ask its next question, or it waits for a call.
`Strand.move` takes it one step further at the present time, and says when it can go on if it has
to wait. A call with a limit is refused to a cancelled party, given up when the party is cancelled
unless it is a write, and given up at its deadline; a call that can end at its deadline does. When
the call itself has cancelled its party before it began to wait, others get their turn before it is
given up.
-/

namespace PolicySync.Simulation

/-- A running script with results in `α`. -/
inductive Strand (α : Type) : Type 1 where
  /-- About to take its next step. -/
  | ready (p : Script Request Request.Answer α)
  /-- Waiting for a call, at a stage, until a time, with a deadline. -/
  | limited (c : Call) (stage : Stage) (wake deadline : Nat)
      (next : Verdict c.Result → Script Request Request.Answer α)
  /-- Waiting for a call that nothing interrupts. -/
  | unlimited (c : Call) (stage : Stage) (wake : Nat) (finish : c.Result → α)

/-- Where a move leads to. -/
inductive Move (τ : Type u) (α : Type) where
  /-- Nothing can happen now. -/
  | stuck
  /-- There is a new state. -/
  | moved (w : World) (state : τ)
  /-- The end is reached. -/
  | ended (w : World) (result : α)

namespace Strand

variable {α : Type}

/-- A limited call that has to wait is given up if it has no time for that. -/
def park (w : World) (c : Call) (stage : Stage) (wake deadline : Nat)
    (next : Verdict c.Result → Script Request Request.Answer α) : Strand α :=
  if deadline ≤ w.now then .ready (next .timedOut) else .limited c stage wake deadline next

/-- A limited call goes on from a stage. -/
def carryOn (w : World) (c : Call) (stage : Stage) (deadline : Nat)
    (next : Verdict c.Result → Script Request Request.Answer α) : World × Strand α :=
  match w.progress c stage with
  | (w, .ended r) => (w, .ready (next (.answered r)))
  | (w, .waits stage wake) => (w, park w c stage wake deadline next)

/-- One step of a strand. -/
def move (w : World) (party : Party) : Strand α → Move (Strand α) α
  | .ready p =>
    match p.head with
    | .done a => .ended w a
    | .ask (.publish snapshot) next =>
      .moved { w with snapshot := some snapshot } (.ready (next ()))
    | .ask (.call c limit) next =>
      if w.cancelled party then .moved w (.ready (next .cancelled))
      else
        let (w, s) := carryOn w c .fresh (alarm w.now limit) next
        .moved w s
  | .limited c stage wake deadline next =>
    if c.abandoned && w.cancelled party then .moved w (.ready (next .cancelled))
    else if wake ≤ w.now then
      let (w, s) := carryOn w c stage deadline next
      .moved w s
    else if deadline ≤ w.now then .moved w (.ready (next .timedOut))
    else .stuck
  | .unlimited c stage wake finish =>
    if wake ≤ w.now then
      match w.progress c stage with
      | (w, .ended r) => .ended w (finish r)
      | (w, .waits stage wake) => .moved w (.unlimited c stage wake finish)
    else .stuck

/-- Whether a strand waits for a call. -/
def waits : Strand α → Bool
  | .ready _ => false
  | .limited _ _ _ _ _ => true
  | .unlimited _ _ _ _ => true

/-- Whether a strand waits for a call that is about to be given up, since its party is
cancelled. -/
def isGivingUp (w : World) (party : Party) : Strand α → Bool
  | .ready _ => false
  | .limited c _ _ _ _ => c.abandoned && w.cancelled party
  | .unlimited _ _ _ _ => false

/-- The next time at which a waiting strand can go on. -/
def wake? : Strand α → Option Nat
  | .ready _ => none
  | .limited _ _ wake deadline _ => some (min wake deadline)
  | .unlimited _ _ wake _ => some wake

end Strand

/-- The earlier of two times that may be missing. -/
def earlier? : Option Nat → Option Nat → Option Nat
  | none, t => t
  | t, none => t
  | some s, some t => some (min s t)

/-- How many of the running passes of a fleet have had their turn and now wait, since the fleet went
on at a time or a pass ended. -/
structure Round where
  time : Nat
  count : Nat

namespace Round

/-- No pass has had its turn. -/
def start (time : Nat) : Round := { time, count := 0 }

/-- One more pass has had its turn at a time. -/
def next (r : Round) (time : Nat) : Round :=
  { time, count := (if r.time = time then r.count else 0) + 1 }

end Round

/-- A full pass on its way. -/
inductive FullPass : Type 1 where
  /-- Before the tenants' passes. -/
  | preparing (s : Strand (Except PassError (Snapshot × List String)))
  /-- During the tenants' passes, all with one snapshot. -/
  | running (snapshot : Snapshot) (fleet : Fleet (Strand (Except PassError TenantReport)))
      (round : Round)

namespace FullPass

/-- A full pass at its start. -/
def start (settings : PassSettings) : FullPass := .preparing (.ready (Pass.prepareAll settings))

/-- The pass of a tenant at its start. -/
def tenantStrand (settings : PassSettings) (snapshot : Snapshot) (tenant : String) :
    Strand (Except PassError TenantReport) :=
  .ready (Pass.reconcileTenant settings snapshot tenant)

/-- The first tenant's pass from a position on that can move takes a step. -/
def moveFleet (w : World) (party : Party) (start : String → Strand (Except PassError TenantReport))
    (fleet : Fleet (Strand (Except PassError TenantReport))) (round : Round) :
    Nat → List (String × Strand (Except PassError TenantReport)) →
      Option (World × Fleet (Strand (Except PassError TenantReport)) × Round)
  | _, [] => none
  | i, e :: rest =>
    match e.2.move w party with
    | .stuck => moveFleet w party start fleet round (i + 1) rest
    | .moved w s => some (w, fleet.advance i s, if s.waits then round.next w.now else round)
    | .ended w r => some (w, fleet.finish start i r, .start w.now)

/-- One step of a full pass. -/
def move (w : World) (party : Party) : FullPass → Move FullPass (Except PassError PassReport)
  | .preparing s =>
    match s.move w party with
    | .stuck => .stuck
    | .moved w s => .moved w (.preparing s)
    | .ended w (.error e) => .ended w (.error e)
    | .ended w (.ok (snapshot, tenants)) =>
      .moved w (.running snapshot (.launch (tenantStrand w.settings snapshot)
        w.settings.tenantConcurrency tenants) (.start w.now))
  | .running snapshot fleet round =>
    match fleet.report? with
    | some report => .ended w (.ok report)
    | none =>
      match moveFleet w party (tenantStrand w.settings snapshot) fleet round 0 fleet.running with
      | none => .stuck
      | some (w, fleet, round) => .moved w (.running snapshot fleet round)

/-- Whether a full pass lets others go first although it could go on: a call is about to be given
up, and every running pass has had its turn. -/
def yields (w : World) (party : Party) : FullPass → Bool
  | .preparing s => s.isGivingUp w party
  | .running _ fleet round =>
    round.time = w.now && round.count = fleet.running.length
      && fleet.running.any fun e => e.2.isGivingUp w party

/-- The next time at which a waiting full pass can go on. -/
def wake? : FullPass → Option Nat
  | .preparing s => s.wake?
  | .running _ fleet _ => fleet.running.foldl (fun t e => earlier? t e.2.wake?) none

end FullPass

end PolicySync.Simulation
