import PolicySync.Proofs.Simulation.Calm
import PolicySync.Proofs.Simulation.Cancellation

/-!
# Passes that start too late

Every pass makes a call before anything else. When its party is cancelled already that call is
denied, and the pass ends with the cancellation and has called nobody (`Errand.denied`). The same
holds of a tenant's pass that a full pass starts late (`denied_tenantStrand`).
-/

namespace PolicySync

/-- The first thing that a script does is a call, and without it the script ends with a result. -/
def Script.Denied {α : Type} (p : Script Request Request.Answer α) (a : α) : Prop :=
  ∃ c limit next, p.head = .ask (.call c limit) next ∧ (next .cancelled).head = .done a

namespace Script.Denied

variable {α β : Type} {p : Script Request Request.Answer α} {a : α} {b : β}

/-- What comes first decides, if the rest ends with what it is handed. -/
theorem bind {f : α → Script Request Request.Answer β} (h : p.Denied a)
    (hf : (f a).head = .done b) : (p.bind f).Denied b := by
  obtain ⟨c, limit, next, hq, hdone⟩ := h
  exact ⟨c, limit, _, head_bind_ask hq f, (head_bind_done hdone f).trans hf⟩

/-- A pass that is denied its first call does not come to its second part. -/
theorem andThen {p : Pass α} {e : PassError} (h : p.Denied (.error e)) (f : α → Pass β) :
    (p.andThen f).Denied (.error e) :=
  h.bind rfl

end Script.Denied

namespace Pass

variable (settings : PassSettings) (snapshot : Snapshot) (tenant : String)

/-- A refresh first lists global roles. -/
theorem denied_refreshSnapshot : (refreshSnapshot settings).Denied (.error .cancelled) :=
  have hroles : (globalRoles settings).Denied (.error .cancelled) := ⟨_, _, _, rfl, rfl⟩
  (hroles.andThen _).andThen _

/-- With a snapshot given, a tenant's pass first asks for the store. -/
theorem denied_reconcileTenant :
    (reconcileTenant settings snapshot tenant).Denied (.error .cancelled) :=
  have hopen : (openStore settings tenant).Denied (.error .cancelled) := ⟨_, _, _, rfl, rfl⟩
  hopen.andThen _

/-- Without one it refreshes the snapshot first. -/
theorem denied_reconcile : (reconcile settings tenant).Denied (.error .cancelled) :=
  (denied_refreshSnapshot settings).andThen _

/-- So does a full pass. -/
theorem denied_prepareAll : (prepareAll settings).Denied (.error .cancelled) :=
  (denied_refreshSnapshot settings).andThen _

end Pass

namespace Simulation

variable {party : Party} {w : World}

/-- A script whose first call is denied is over. -/
theorem Strand.move_denied {α : Type} {p : Script Request Request.Answer α} {a : α}
    (h : p.Denied a) (hc : w.cancelled party = true) :
    ∃ s, Strand.move w party (.ready p) = .moved w s ∧
      ∀ w₁, Strand.move w₁ party s = .ended w₁ a := by
  obtain ⟨c, limit, next, hq, hdone⟩ := h
  refine ⟨.ready (next .cancelled), ?_, fun w₁ => move_of_done hdone⟩
  rw [Strand.move, hq]
  exact if_pos hc

/-- A tenant's pass that a full pass starts after the cancellation calls nobody. -/
theorem denied_tenantStrand (settings : PassSettings) (snapshot : Snapshot) (tenant : String)
    (hc : w.cancelled party = true) :
    ∃ s, (FullPass.tenantStrand settings snapshot tenant).move w party = .moved w s ∧
      ∀ w₁, s.move w₁ party = .ended w₁ (.error .cancelled) :=
  Strand.move_denied (Pass.denied_reconcileTenant settings snapshot tenant) hc

/-- A job is over after its first call was denied, and has called nobody. -/
def Job.Denied (w : World) (j : Job) : Prop :=
  ∃ j', j.move w = .moved w j' ∧
    ∀ w₁, ∃ w₂, j'.move w₁ = .ended w₂ (.passError .cancelled) ∧ w₁.Lands none w₂

namespace Job

/-- The pass of one tenant whose report is an outcome. -/
def reporting (p : Pass TenantReport) : Job :=
  .single .caller (.ready (p.bind fun r => .done (Outcome.ofExcept .report r)))

/-- A caller's pass of one tenant ends without a call. -/
theorem denied_reporting {p : Pass TenantReport} (h : p.Denied (.error .cancelled))
    (hc : w.cancelled .caller = true) : (reporting p).Denied w := by
  obtain ⟨s, hmoved, hended⟩ := Strand.move_denied
    (h.bind (f := fun r => .done (Outcome.ofExcept .report r)) rfl) hc
  refine ⟨.single .caller s, ?_, fun w₁ => ⟨w₁, ?_, .refl w₁⟩⟩
  · rw [reporting, move, hmoved]
  · rw [move, hended]
    rfl

/-- So does a triggered pass, which is recorded as failed. -/
theorem denied_triggered {p : Pass TenantReport} (h : p.Denied (.error .cancelled))
    (hc : w.cancelled .scheduler = true) : (triggered (.ready p)).Denied w := by
  obtain ⟨s, hmoved, hended⟩ := Strand.move_denied h hc
  refine ⟨.triggered s, ?_, fun w₁ =>
    ⟨w₁.recordTriggered (.error .cancelled), ?_, rfl, rfl, rfl, rfl⟩⟩
  · rw [move, hmoved]
  · rw [move, hended]
    rfl

/-- So does a full pass, recorded if it is the scheduler's. -/
theorem denied_full (settings : PassSettings) (hc : w.cancelled party = true) :
    (full party (.start settings)).Denied w := by
  obtain ⟨s, hmoved, hended⟩ := Strand.move_denied (Pass.denied_prepareAll settings) hc
  refine ⟨.full party (.preparing s), ?_, fun w₁ =>
    ⟨if party = .scheduler then w₁.recordFull (.error .cancelled) else w₁, ?_, ?_⟩⟩
  · rw [move, FullPass.start, FullPass.move, hmoved]
  · rw [move, FullPass.move, hended]
    rfl
  · split <;> exact ⟨rfl, rfl, rfl, rfl⟩

end Job

/-- A pass that callers or the scheduler set out on. -/
inductive Errand where
  | reconcile (tenant : String)
  /-- With a snapshot that was kept under a name. -/
  | reconcileTenant (tenant : String) (held : Option String)
  | reconcileAll
  | runOnce
  | trigger (tenant : String)

namespace Errand

/-- Whose cancellation an errand heeds. -/
def heeded : Errand → Party
  | reconcile _ => .caller
  | reconcileTenant _ _ => .caller
  | reconcileAll => .caller
  | runOnce => .scheduler
  | trigger _ => .scheduler

/-- The step that sets out on an errand. -/
def step : Errand → Step
  | reconcile tenant => .reconcile tenant
  | reconcileTenant tenant held => .reconcileTenant tenant held
  | reconcileAll => .reconcileAll
  | runOnce => .runOnce
  | trigger tenant => .trigger tenant

/-- The work of an errand at its start. -/
def job (w : World) : Errand → Job
  | reconcile tenant => .reporting (Pass.reconcile w.settings tenant)
  | reconcileTenant tenant held => .reporting (Pass.reconcileTenant w.settings
      ((held.bind fun name => w.held.lookup name).getD {}) tenant)
  | reconcileAll => .full .caller (.start w.settings)
  | runOnce => .full .scheduler (.start w.settings)
  | trigger tenant => .triggered (.ready (Pass.reconcile w.settings tenant))

/-- The step of an errand sets out on its job. -/
theorem begin_step (s : Course) (e : Errand) :
    s.begin e.step = { s with front := .working (e.job s.world) } := by
  cases e <;> rfl

/-- The job of an errand waits for nothing at its start. -/
theorem underway_job (e : Errand) (w : World) : (e.job w).Underway := by
  cases e <;> trivial

/-- It heeds the cancellation that the errand does. -/
theorem heeded_job (e : Errand) (w : World) : (e.job w).heeded = e.heeded := by
  cases e <;> rfl

/-- It has no write in flight. -/
theorem inFlight_job (e : Errand) (w : World) : (e.job w).inFlight = 0 := by
  cases e <;> rfl

/-- An errand whose party is cancelled is over before it has called anybody. -/
theorem denied (e : Errand) (hc : w.cancelled e.heeded = true) : (e.job w).Denied w := by
  cases e with
  | reconcile tenant => exact Job.denied_reporting (Pass.denied_reconcile w.settings tenant) hc
  | reconcileTenant tenant held =>
    exact Job.denied_reporting (Pass.denied_reconcileTenant w.settings _ tenant) hc
  | reconcileAll => exact Job.denied_full w.settings hc
  | runOnce => exact Job.denied_full w.settings hc
  | trigger tenant => exact Job.denied_triggered (Pass.denied_reconcile w.settings tenant) hc

end Errand

end Simulation

end PolicySync
