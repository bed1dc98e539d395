import PolicySync.Proofs.Simulation.Scheduler

/-!
# After the shutdown

`cancellation_quiets` says what a cancellation does to the passes under way and to those that start
later, and what of the scheduler is left when a shutdown has returned: no loop until one is started,
and of the passes that others have asked for the writes that are in flight. Whatever the scheduler is
asked for from then on calls nobody.

A shutdown waits for the loop alone, and a write in flight is bounded by nothing but its timeout. So
a stored tuple may change after it (`write_lands_after_shutdown`).
-/

namespace PolicySync.Simulation

open Memory (WriteCall)
open Scheduler (Deed History own)

/-- From the moment its party is cancelled a pass starts no call, whatever the order in which its
tenants' passes go on and whatever else changes the world, and stored tuples change only through
write calls that were in flight then, each of them once at most. A pass that is set out on later,
also one that a full pass starts for a tenant, ends with the cancellation at its first call.

When a shutdown returns there is no loop, and there is none until one is started. Whatever the
scheduler does after that, in any order and for anybody, starts no call, and stored tuples change only
through the writes that its passes for others had in flight when the shutdown returned, each of them
once at most. -/
theorem cancellation_quiets :
    (∀ {e : Errand} {w₀ w w' : World} {log₀ log : List (World × World)} {j : Job}
        {j' : Option Job},
      Job.Run e.heeded w₀ (e.job w₀) log₀ w (some j) → w.cancelled e.heeded = true →
      Job.Run e.heeded w j log w' j' →
      ∃ landed : List (Option WriteCall),
        List.Forall₂ (fun step l => World.Lands step.1 l step.2) log landed ∧
          (landed.reduceOption : Multiset WriteCall) + Job.left j' ≤ j.inFlight) ∧
    (∀ {e : Errand} {w : World}, w.cancelled e.heeded = true → (e.job w).Denied w) ∧
    (∀ {party : Party} {w : World} {settings : PassSettings} {snapshot : Snapshot}
        {tenant : String},
      w.cancelled party = true →
      ∃ s, (FullPass.tenantStrand settings snapshot tenant).move w party = .moved w s ∧
        ∀ w₁, s.move w₁ party = .ended w₁ (.error .cancelled)) ∧
    (∀ {world : World} {before after : List (Deed × World × World)} {s s₁ s' : Scheduler},
      History { world } before s → s.Step .returns s₁ → History s₁ after s' →
      s₁.loop = .off ∧ ((∀ e ∈ after, e.1 ≠ .starts) → s'.loop = .off) ∧
        ∃ landed : List (Option WriteCall),
          List.Forall₂ (fun step l => World.Lands step.1 l step.2) (own after) landed ∧
            (landed.reduceOption : Multiset WriteCall) + s'.inFlight ≤
              (s₁.jobs.map Job.inFlight).sum ∧
            -- With nobody else about, this is all that happens to the world.
            ((∀ e ∈ after, e.1 ≠ .others) →
              s₁.world.LandsAll landed.reduceOption s'.world)) := by
  refine ⟨?_, fun {e} _ hc => e.denied hc, fun hc => denied_tenantStrand _ _ _ hc, ?_⟩
  · intro e w₀ w w' log₀ log j j' hbefore hc hafter
    obtain ⟨hunderway, hheeded⟩ := (e.underway_job w₀).run hbefore
    exact hunderway.lands (hheeded.trans (e.heeded_job w₀)) hc hafter
  · intro world before after s s₁ s' hbefore hreturns hafter
    have horderly := (Scheduler.orderly_idle world).run hbefore
    have horderly₁ := horderly.step hreturns
    cases hreturns with
    | join hjoining hloop =>
      -- The shutdown has cancelled when it began, and that is not taken back.
      have hc := horderly.joining (by rw [hjoining]; exact Nat.succ_ne_zero _)
      obtain ⟨landed, hlands, hle, hall⟩ := horderly₁.lands hc hafter
      have hjobs : s.inFlight = (s.jobs.map Job.inFlight).sum := by
        rw [Scheduler.inFlight, hloop]
        exact zero_add _
      exact ⟨hloop, fun hnone => hafter.loop_off hloop hnone, landed, hlands, hle.trans hjobs.le,
        hall⟩

/-- The office with one tuple to a batch and a first write that takes a second. -/
def slowOffice : World where
  settings := { writeBatchSize := 1 }
  lister := Memory.Backends.office.lister
  store := Memory.Backends.office.store.delayCall 1 1000

/-- The pass of a tenant that waits for its first write. -/
def slowPass : World × Job := ((Errand.reconcile "north").job slowOffice).goOn 30 slowOffice

/-- The caller has cancelled it when the second is over. -/
def slowOfficeCancelled : World := { slowPass.1 with callerCancelled := true, now := 1000 }

/-- The pass goes on as far as it can. -/
def slowPassCancelled : World × Job := slowPass.2.goOn 30 slowOfficeCancelled

/-- The scheduler was asked for that pass in a task of its own. -/
def slowTrigger : World × Job := ((Errand.trigger "north").job slowOffice).goOn 30 slowOffice

/-- The scheduler while that task waits, after another one has shut it down. -/
def slowScheduler : Scheduler where
  world := { slowTrigger.1 with schedulerCancelled := true }
  stopping := true
  jobs := [slowTrigger.2]

/-- The second is over, and the pass goes on as far as it can. -/
def slowTriggerOver : World × Job := slowTrigger.2.goOn 30 { slowScheduler.world with now := 1000 }

def slowSchedulerOver : Scheduler :=
  { slowScheduler with world := slowTriggerOver.1, jobs := [slowTriggerOver.2] }

/-- So it comes about in the office. -/
theorem exists_history_slowScheduler :
    ∃ log, History { world := slowOffice } log { slowScheduler with joining := 1 } :=
  Scheduler.exists_history_shutdown slowOffice (e := .trigger "north") rfl 30

/-- The clock goes on, and so does the pass. -/
theorem exists_history_slowSchedulerOver :
    ∃ log, History slowScheduler log slowSchedulerOver ∧ ∀ e ∈ log, e.1 = .works := by
  let elapsed : Scheduler :=
    { slowScheduler with world := { slowScheduler.world with now := 1000 } }
  have helapse : slowScheduler.Step .works elapsed := .elapse (by decide +kernel)
  obtain ⟨log, hgo, hworks⟩ := elapsed.exists_history_goOn 30 (List.nil_append _).symm
  exact ⟨_, helapse.history.trans hgo, List.forall_mem_cons.2 ⟨rfl, hworks⟩⟩

/-- A shutdown can return while a pass that another task has asked for waits for its write. Then the
clock alone lets a stored tuple change, and a loop can be started again. -/
theorem write_lands_after_shutdown :
    (∃ log, History { world := slowOffice } log { slowScheduler with joining := 1 }) ∧
      Scheduler.Step { slowScheduler with joining := 1 } .returns slowScheduler ∧
      (∃ log, History slowScheduler log slowSchedulerOver ∧ ∀ e ∈ log, e.1 = .works) ∧
      (slowScheduler.world.store.tuplesOf "north").size = 3 ∧
      (slowSchedulerOver.world.store.tuplesOf "north").size = 4 ∧
      slowScheduler.Step .starts { slowScheduler with
        loop := .resting slowScheduler.world.now, stopping := false } :=
  ⟨exists_history_slowScheduler, .join rfl rfl, exists_history_slowSchedulerOver,
    by decide +kernel, by decide +kernel, .start rfl⟩

/-- In the office a pass of the caller waits for its first write when it is cancelled, and so does a
pass of the scheduler when it is shut down. In both cases the write lands, and that is all. -/
theorem cancellation_quiets_slow :
    (∃ log landed, Job.Run .caller slowOfficeCancelled slowPass.2 log slowPassCancelled.1
          (some slowPassCancelled.2) ∧
        List.Forall₂ (fun step l => World.Lands step.1 l step.2) log landed ∧
          (landed.reduceOption : Multiset WriteCall) + slowPassCancelled.2.inFlight ≤
            slowPass.2.inFlight) ∧
      -- One write is in flight, and it adds a tuple.
      slowPass.2.inFlight.card = 1 ∧ (slowPass.1.store.tuplesOf "north").size = 3 ∧
      (slowPassCancelled.1.store.tuplesOf "north").size = 4 ∧
      ((Errand.reconcile "south").job slowOfficeCancelled).Denied slowOfficeCancelled ∧
      (∃ s, (FullPass.tenantStrand {} {} "south").move slowOfficeCancelled .caller =
        .moved slowOfficeCancelled s) ∧
      slowSchedulerOver.loop = .off ∧
      ∃ landed : List WriteCall, slowScheduler.world.LandsAll landed slowSchedulerOver.world ∧
        (landed : Multiset WriteCall) ≤ slowTrigger.2.inFlight ∧
        slowTrigger.2.inFlight.card = 1 := by
  obtain ⟨hpass, herrand, htenant, hshutdown⟩ := cancellation_quiets
  refine ⟨?_, by decide +kernel, by decide +kernel, by decide +kernel, ?_, ?_, ?_⟩
  · obtain ⟨log₀, hbefore⟩ :=
      ((Errand.reconcile "north").job slowOffice).run_goOn .caller 30 slowOffice
    obtain ⟨log, hafter⟩ := slowPass.2.run_goOn .caller 30 slowOfficeCancelled
    have hcancels :
        Job.Run .caller slowPass.1 slowPass.2 [] slowOfficeCancelled (some slowPass.2) :=
      .beside (fun _ => rfl) .stay
    obtain ⟨landed, hlands, hle⟩ :=
      hpass (e := .reconcile "north") (hbefore.trans hcancels) rfl hafter
    exact ⟨log, landed, hafter, hlands, hle⟩
  · exact herrand rfl
  · have hc : slowOfficeCancelled.cancelled .caller = true := rfl
    obtain ⟨s, hmove, -⟩ := htenant hc
    exact ⟨s, hmove⟩
  · obtain ⟨before, hbefore⟩ := exists_history_slowScheduler
    obtain ⟨after, hafter, hworks⟩ := exists_history_slowSchedulerOver
    obtain ⟨-, hoff, landed, -, hle, hall⟩ :=
      hshutdown hbefore (.join rfl rfl : Scheduler.Step _ .returns slowScheduler) hafter
    refine ⟨hoff fun e he => ?_, landed.reduceOption, hall fun e he => ?_, ?_, by decide +kernel⟩
    · rw [hworks e he]
      exact Deed.noConfusion
    · rw [hworks e he]
      exact Deed.noConfusion
    · have hjobs : (slowScheduler.jobs.map Job.inFlight).sum = slowTrigger.2.inFlight :=
        add_zero _
      exact (Multiset.le_add_right _ _).trans (hle.trans hjobs.le)

end PolicySync.Simulation
