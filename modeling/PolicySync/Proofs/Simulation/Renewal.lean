import PolicySync.Proofs.Simulation.Denial
import PolicySync.Proofs.Simulation.Leavings

/-!
# Building before publishing

Whatever renews the snapshot begins alike: it builds a snapshot, publishes it if that has succeeded,
and goes on with it. As long as the build is under way a job takes the steps of the build
(`Job.Builds.goes`). It ends there if the build fails (`Job.Builds.ends`), and after the publication
it is a job with the snapshot that it has built, which publishes nothing more.
-/

namespace PolicySync

namespace Pass

/-- What follows a build: a snapshot is published, and the script goes on with the result. -/
def publishing {α : Type} (rest : Except PassError Snapshot → Script Request Request.Answer α) :
    Except PassError Snapshot → Script Request Request.Answer α
  | .ok snapshot => .ask (.publish snapshot) fun _ => rest (.ok snapshot)
  | .error e => rest (.error e)

/-- What follows the result of a pass: the pass goes on, or it has failed. -/
def onward {α β : Type} (f : α → Pass β) : Except PassError α → Pass β
  | .ok a => f a
  | .error e => .done (.error e)

/-- A refresh is a build that then publishes. -/
theorem bind_refreshSnapshot {α : Type} (settings : PassSettings)
    (rest : Except PassError Snapshot → Script Request Request.Answer α) :
    (refreshSnapshot settings).bind rest = (buildSnapshot settings).bind (publishing rest) := by
  rw [refreshSnapshot, andThen, Script.bind_assoc]
  congr 1
  funext r
  cases r <;> rfl

/-- Building a snapshot takes calls only. -/
theorem asks_buildSnapshot (settings : PassSettings) :
    (buildSnapshot settings).Asks Request.IsCall := by
  rw [buildSnapshot, globalRoles_eq]
  exact asks_andThen (asks_pagesFrom (fun _ => trivial) _ _) fun roles => trivial

/-- So does finding the tenants. -/
theorem asks_tenants (settings : PassSettings) : (tenants settings).Asks Request.IsCall := by
  rw [tenants]
  split
  · exact ⟨trivial, fun _ => trivial⟩
  · trivial

end Pass

namespace Simulation

open Pass (publishing onward)

variable {α β : Type} {party : Party} {w w' : World} {settings : PassSettings}

/-! ## Strands that begin with others -/

/-- A strand does what another does, and when that is over it goes on with the result. -/
inductive Strand.Begins (f : α → Script Request Request.Answer β) : Strand α → Strand β → Prop where
  | ready (p : Script Request Request.Answer α) : Begins f (.ready p) (.ready (p.bind f))
  | limited (c : Call) (stage : Stage) (wake deadline : Nat)
      (next : Verdict c.Result → Script Request Request.Answer α) :
      Begins f (.limited c stage wake deadline next)
        (.limited c stage wake deadline fun v => (next v).bind f)

namespace Strand

variable {f : α → Script Request Request.Answer β} {first : Strand α} {whole : Strand β}

/-- The two wait for the same call and leave the same world. -/
theorem begins_carryOn (w : World) (c : Call) (stage : Stage) (deadline : Nat)
    (next : Verdict c.Result → Script Request Request.Answer α) :
    (carryOn w c stage deadline fun v => (next v).bind f).1 = (carryOn w c stage deadline next).1 ∧
      Begins f (carryOn w c stage deadline next).2
        (carryOn w c stage deadline fun v => (next v).bind f).2 := by
  rw [carryOn, carryOn]
  rcases w.progress c stage with ⟨w₁, r | ⟨stage', wake⟩⟩
  · exact ⟨rfl, .ready _⟩
  · dsimp only [park]
    split
    · exact ⟨rfl, .ready _⟩
    · exact ⟨rfl, .limited _ _ _ _ _⟩

/-- Both wait, or both take the same step, or the first is over and the whole goes on. -/
theorem Begins.move (h : first.Begins f whole) (w : World) (party : Party) :
    first.move w party = .stuck ∧ whole.move w party = .stuck ∨
    (∃ w' first' whole', first.move w party = .moved w' first' ∧
      whole.move w party = .moved w' whole' ∧ first'.Begins f whole') ∨
    ∃ a, first.move w party = .ended w a ∧
      whole.move w party = Strand.move w party (.ready (f a)) := by
  cases h with
  | ready p =>
    simp only [Strand.move]
    -- As long as the first script asks, both ask the same.
    cases hp : p.head with
    | done a =>
      rw [Script.head_bind_done hp]
      exact .inr (.inr ⟨a, rfl, rfl⟩)
    | ask q next =>
      rw [Script.head_bind_ask hp]
      refine .inr (.inl ?_)
      cases q with
      | publish snapshot => exact ⟨_, _, _, rfl, rfl, .ready _⟩
      | call c limit =>
        obtain ⟨hworld, hbegins⟩ :=
          begins_carryOn (f := f) w c .fresh (alarm w.now limit) next
        dsimp only
        split
        · exact ⟨_, _, _, rfl, rfl, .ready _⟩
        · exact ⟨_, _, _, rfl, by rw [← hworld], hbegins⟩
  | limited c stage wake deadline next =>
    obtain ⟨hworld, hbegins⟩ := begins_carryOn (f := f) w c stage deadline next
    simp only [Strand.move]
    split
    · exact .inr (.inl ⟨_, _, _, rfl, rfl, .ready _⟩)
    · split
      · exact .inr (.inl ⟨_, _, _, rfl, by rw [← hworld], hbegins⟩)
      · split
        · exact .inr (.inl ⟨_, _, _, rfl, rfl, .ready _⟩)
        · exact .inl ⟨rfl, rfl⟩

variable {build : Strand (Except PassError Snapshot)} {s s' : Strand α} {a : α}
  {rest : Except PassError Snapshot → Script Request Request.Answer α} {fail : PassError → α}

/-- A step of the longer script is one of the build, or it publishes what was built. -/
theorem Begins.of_moved (h : build.Begins (publishing rest) s)
    (hfail : ∀ e, rest (.error e) = .done (fail e)) (hmove : s.move w party = .moved w' s') :
    (∃ build', build.move w party = .moved w' build' ∧ build'.Begins (publishing rest) s') ∨
    ∃ snapshot, build.move w party = .ended w (.ok snapshot) ∧
      w' = w.holding (some snapshot) ∧ s' = .ready (rest (.ok snapshot)) := by
  rcases h.move w party with ⟨-, hwhole⟩ | ⟨w₁, build', s₁, hbuild, hwhole, hbegins⟩ |
    ⟨r, hbuild, hwhole⟩
  · cases hwhole.symm.trans hmove
  · cases hwhole.symm.trans hmove
    exact .inl ⟨build', hbuild, hbegins⟩
  · rw [hwhole] at hmove
    cases r with
    | ok snapshot =>
      cases hmove
      exact .inr ⟨snapshot, hbuild, rfl, rfl⟩
    | error e =>
      rw [publishing, hfail] at hmove
      cases hmove

/-- The longer script ends within the build only if that fails. -/
theorem Begins.of_ended (h : build.Begins (publishing rest) s)
    (hfail : ∀ e, rest (.error e) = .done (fail e)) (hmove : s.move w party = .ended w' a) :
    ∃ e, build.move w party = .ended w (.error e) ∧ a = fail e := by
  rcases h.move w party with ⟨-, hwhole⟩ | ⟨w₁, build', s₁, -, hwhole, -⟩ | ⟨r, hbuild, hwhole⟩
  · cases hwhole.symm.trans hmove
  · cases hwhole.symm.trans hmove
  · rw [hwhole] at hmove
    cases r with
    | ok snapshot => cases hmove
    | error e =>
      rw [publishing, hfail] at hmove
      cases hmove
      exact ⟨e, hbuild, rfl⟩

/-- A build that has succeeded is published in the next step. -/
theorem Begins.publishes (h : build.Begins (publishing rest) s) {snapshot : Snapshot}
    (hbuild : build.move w party = .ended w' (.ok snapshot)) :
    s.move w party = .moved (w.holding (some snapshot)) (.ready (rest (.ok snapshot))) := by
  rcases h.move w party with ⟨hstuck, -⟩ | ⟨w₁, build', s₁, hmoved, -⟩ | ⟨r, hended, hwhole⟩
  · cases hstuck.symm.trans hbuild
  · cases hmoved.symm.trans hbuild
  · cases hended.symm.trans hbuild
    exact hwhole

end Strand

/-! ## Jobs that build -/

/-- A job is at a build. Once the snapshot that comes of it is published, the job is `after` that
snapshot, and it publishes no other. -/
inductive Job.Builds (build : Strand (Except PassError Snapshot)) : Job → (Snapshot → Job) → Prop
    where
  | single {party : Party} {s : Strand Outcome}
      {rest : Except PassError Snapshot → Script Request Request.Answer Outcome}
      (h : build.Begins (publishing rest) s) (hfail : ∀ e, rest (.error e) = .done (.passError e))
      (hquiet : ∀ snapshot, (rest (.ok snapshot)).Asks Request.IsCall) :
      Builds build (.single party s) fun snapshot => .single party (.ready (rest (.ok snapshot)))
  | triggered {s : Strand (Except PassError TenantReport)}
      {rest : Except PassError Snapshot → Pass TenantReport}
      (h : build.Begins (publishing rest) s) (hfail : ∀ e, rest (.error e) = .done (.error e))
      (hquiet : ∀ snapshot, (rest (.ok snapshot)).Asks Request.IsCall) :
      Builds build (.triggered s) fun snapshot => .triggered (.ready (rest (.ok snapshot)))
  | full {party : Party} {s : Strand (Except PassError (Snapshot × List String))}
      {rest : Except PassError Snapshot → Pass (Snapshot × List String)}
      (h : build.Begins (publishing rest) s) (hfail : ∀ e, rest (.error e) = .done (.error e))
      (hquiet : ∀ snapshot, (rest (.ok snapshot)).Asks Request.IsCall) :
      Builds build (.full party (.preparing s)) fun snapshot =>
        .full party (.preparing (.ready (rest (.ok snapshot))))

namespace Job

variable {build : Strand (Except PassError Snapshot)} {j j' : Job} {after : Snapshot → Job}
  {outcome : Outcome} {snapshot : Snapshot}

/-- What comes after a build publishes nothing more. -/
theorem Builds.quiet (h : j.Builds build after) (snapshot : Snapshot) : (after snapshot).Quiet := by
  cases h with
  | single _ _ hquiet => exact hquiet snapshot
  | triggered _ _ hquiet => exact hquiet snapshot
  | full _ _ hquiet => exact hquiet snapshot

/-- A job that builds takes the steps of its build, and when that has succeeded it publishes. -/
theorem Builds.goes (h : j.Builds build after) (hgoes : j.Goes w w' j') :
    (∃ build', build.move w j.heeded = .moved w' build' ∧ j'.Builds build' after) ∨
    ∃ snapshot, build.move w j.heeded = .ended w (.ok snapshot) ∧
      w' = w.holding (some snapshot) ∧ j' = after snapshot := by
  cases h with
  | single h hfail hquiet =>
    cases hgoes with
    | single hmove =>
      rcases h.of_moved hfail hmove with ⟨build', hbuild, hbegins⟩ | ⟨snapshot, hbuild, hw, hs⟩
      · exact .inl ⟨build', hbuild, .single hbegins hfail hquiet⟩
      · exact .inr ⟨snapshot, hbuild, hw, congrArg _ hs⟩
  | triggered h hfail hquiet =>
    cases hgoes with
    | triggered hmove =>
      rcases h.of_moved hfail hmove with ⟨build', hbuild, hbegins⟩ | ⟨snapshot, hbuild, hw, hs⟩
      · exact .inl ⟨build', hbuild, .triggered hbegins hfail hquiet⟩
      · exact .inr ⟨snapshot, hbuild, hw, congrArg _ hs⟩
  | full h hfail hquiet =>
    cases hgoes with
    | full hgoes =>
      cases hgoes with
      | prepare hmove =>
        rcases h.of_moved hfail hmove with ⟨build', hbuild, hbegins⟩ | ⟨snapshot, hbuild, hw, hs⟩
        · exact .inl ⟨build', hbuild, .full hbegins hfail hquiet⟩
        · exact .inr ⟨snapshot, hbuild, hw, congrArg (fun s => Job.full _ (.preparing s)) hs⟩
      | launch round hmove =>
        -- A pass cannot come to its tenants before it has published.
        obtain ⟨e, -, he⟩ := h.of_ended hfail hmove
        cases he

/-- A job comes to its end at its build only because that has failed. -/
theorem Builds.ends (h : j.Builds build after) (hends : j.Ends w w' outcome) :
    ∃ e, build.move w j.heeded = .ended w (.error e) ∧ outcome = .passError e := by
  cases h with
  | single h hfail _ =>
    cases hends with
    | single hmove => exact h.of_ended hfail hmove
  | triggered h hfail _ =>
    cases hends with
    | triggered hmove =>
      obtain ⟨e, hbuild, rfl⟩ := h.of_ended hfail hmove
      exact ⟨e, hbuild, rfl⟩
  | full h hfail _ =>
    cases hends with
    | full hends =>
      cases hends with
      | failed hmove =>
        obtain ⟨e, hbuild, he⟩ := h.of_ended hfail hmove
        cases he
        exact ⟨_, hbuild, rfl⟩

/-- A build that ends well is published at once. -/
theorem Builds.publishes (h : j.Builds build after)
    (hbuild : build.move w j.heeded = .ended w' (.ok snapshot)) :
    j.Goes w (w.holding (some snapshot)) (after snapshot) := by
  cases h with
  | single h _ _ => exact .single (h.publishes hbuild)
  | triggered h _ _ => exact .triggered (h.publishes hbuild)
  | full h _ _ => exact .full (.prepare (h.publishes hbuild))

end Job

/-! ## What renews the snapshot -/

/-- A call that renews the snapshot. -/
inductive Renewal where
  | refresh
  | reconcile (tenant : String)
  | trigger (tenant : String)
  | full (party : Party)

namespace Renewal

/-- The step that makes the call. -/
def step : Renewal → Step
  | refresh => .refreshSnapshot
  | reconcile tenant => .reconcile tenant
  | trigger tenant => .trigger tenant
  | full .caller => .reconcileAll
  | full .scheduler => .runOnce

/-- The work at its start. -/
def job (settings : PassSettings) : Renewal → Job
  | refresh => .single .caller (.ready ((Pass.refreshSnapshot settings).bind fun r =>
      .done (.ofExcept .snapshot r)))
  | reconcile tenant => .reporting (Pass.reconcile settings tenant)
  | trigger tenant => .triggered (.ready (Pass.reconcile settings tenant))
  | full party => .full party (.start settings)

/-- The work that is left after a snapshot was published. -/
def after (settings : PassSettings) (snapshot : Snapshot) : Renewal → Job
  | refresh => .single .caller (.ready (.done (.snapshot snapshot)))
  | reconcile tenant => .reporting (Pass.reconcileTenant settings snapshot tenant)
  | trigger tenant => .triggered (.ready (Pass.reconcileTenant settings snapshot tenant))
  | full party => .full party (.preparing (.ready ((Pass.tenants settings).andThen fun names =>
      Pass.of (.ok (snapshot, names)))))

/-- The step of a renewal sets out on its job. -/
theorem begin_step (s : Course) (e : Renewal) :
    s.begin e.step = { s with front := .working (e.job s.world.settings) } := by
  cases e with
  | full party => cases party <;> rfl
  | _ => rfl

/-- Every renewal begins with a build of its own. -/
theorem builds (settings : PassSettings) (e : Renewal) :
    (e.job settings).Builds (.ready (Pass.buildSnapshot settings)) (e.after settings ·) := by
  cases e with
  | refresh =>
    have h := Strand.Begins.ready (f := publishing fun r => .done (Outcome.ofExcept .snapshot r))
      (Pass.buildSnapshot settings)
    rw [← Pass.bind_refreshSnapshot] at h
    exact .single h (fun _ => rfl) fun _ => trivial
  | reconcile tenant =>
    have h := Strand.Begins.ready (f := publishing fun r =>
      (onward (Pass.reconcileTenant settings · tenant) r).bind fun r =>
        .done (Outcome.ofExcept .report r)) (Pass.buildSnapshot settings)
    rw [← Pass.bind_refreshSnapshot, ← Script.bind_assoc] at h
    exact .single h (fun _ => rfl) fun snapshot =>
      (Pass.asks_reconcileTenant settings snapshot tenant).bind fun _ => trivial
  | trigger tenant =>
    have h := Strand.Begins.ready (f := publishing (onward (Pass.reconcileTenant settings · tenant)))
      (Pass.buildSnapshot settings)
    rw [← Pass.bind_refreshSnapshot] at h
    exact .triggered h (fun _ => rfl) (Pass.asks_reconcileTenant settings · tenant)
  | full party =>
    have h := Strand.Begins.ready (f := publishing (onward fun snapshot =>
      (Pass.tenants settings).andThen fun names => Pass.of (.ok (snapshot, names))))
      (Pass.buildSnapshot settings)
    rw [← Pass.bind_refreshSnapshot] at h
    exact .full h (fun _ => rfl) fun snapshot =>
      Pass.asks_andThen (Pass.asks_tenants settings) fun _ => trivial

end Renewal

end Simulation

end PolicySync
