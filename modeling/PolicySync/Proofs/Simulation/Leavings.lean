import PolicySync.Proofs.Pass.Survey
import PolicySync.Proofs.Simulation.Steps

/-!
# What passes leave behind

Two things in a world are no backend's: the published snapshot and the health. Calls neither look at
them nor change them, so whatever runs moves as it would with others in their place, unless it is
about to publish (`Strand.move_leaving`). Nothing but the record of a pass changes the health
(`Job.Goes.health`), and nothing but a publication the snapshot.
-/

namespace PolicySync

/-- A question that is a call. -/
def Request.IsCall : Request → Prop
  | .call _ _ => True
  | .publish _ => False

namespace Pass

/-- Reading the stored tuples takes calls only, so it publishes nothing. -/
theorem asks_actualTuples (settings : PassSettings) (store : String) :
    (actualTuples settings store).Asks Request.IsCall := by
  rw [actualTuples_eq]
  exact asks_pagesFrom (fun _ => trivial) _ _

/-- The pass of a tenant with a snapshot never publishes another. -/
theorem asks_reconcileTenant (settings : PassSettings) (snapshot : Snapshot) (tenant : String) :
    (reconcileTenant settings snapshot tenant).Asks Request.IsCall :=
  asks_andThen ⟨trivial, fun _ => trivial⟩ fun store =>
    asks_andThen (asks_desiredOfKinds _ _ (fun _ _ => trivial) _) fun desired =>
    asks_andThen (asks_actualTuples settings store) fun actual =>
    (asks_carryOut ⟨store, desired, actual⟩).mono fun q hq => by
      obtain ⟨-, batch, -, rfl⟩ := hq
      trivial

end Pass

namespace Simulation

open Script (Asks)

variable {α : Type} {party : Party} {w w' : World} {cell : Option Snapshot} {status : Health}

/-! ## Worlds -/

namespace World

/-- A world with another snapshot and another health. -/
def leaving (w : World) (cell : Option Snapshot) (status : Health) : World :=
  { w with snapshot := cell, health := status }

/-- The snapshot and the health are as they were. -/
structure Leaves (w w' : World) : Prop where
  snapshot : w'.snapshot = w.snapshot
  health : w'.health = w.health

theorem Leaves.refl (w : World) : w.Leaves w := ⟨rfl, rfl⟩

/-- A world that does not depend on what was left has left it as it was. -/
theorem leaves_of_eq_leaving (h : w' = w'.leaving w.snapshot w.health) : w.Leaves w' := by
  rw [h]
  exact ⟨rfl, rfl⟩

/-- Who is cancelled does not depend on what passes leave behind. -/
theorem cancelled_leaving (w : World) (party : Party) :
    (w.leaving cell status).cancelled party = w.cancelled party := by
  cases party <;> rfl

/-- A cancellation by a fault keeps what is left behind. -/
theorem cancelIf_leaving (w : World) (b : Bool) :
    (w.leaving cell status).cancelIf b = (w.cancelIf b).leaving cell status := by
  cases b <;> rfl

/-- Neither does any answer of a backend depend on it. -/
theorem answer_leaving (w : World) (c : Call) (fault : Fault) (r : c.Result) :
    (w.leaving cell status).answer c fault r =
      ((w.answer c fault r).1.leaving cell status, (w.answer c fault r).2) := by
  rw [answer, cancelIf_leaving]
  rfl

/-- Nor does a call that reaches its backend. -/
theorem enter_leaving (w : World) (c : Call) (fault : Fault) :
    (w.leaving cell status).enter c fault =
      ((w.enter c fault).1.leaving cell status, (w.enter c fault).2) := by
  cases c with
  | list kind tenant limit token =>
    exact answer_leaving { w with lister := (w.lister.list ⟨kind, tenant⟩ limit token).2 } _ _ _
  | tenants => exact answer_leaving w _ _ _
  | openStore tenant =>
    simp only [enter]
    split
    · exact answer_leaving w _ _ _
    · exact answer_leaving { w with store := (w.store.getOrCreate tenant).2 } _ _ _
  | read store limit token => exact answer_leaving w _ _ _
  | write id batch =>
    simp only [enter]
    split
    · exact answer_leaving w _ _ _
    · -- Whether the call has to wait is up to the store.
      show (if (w.store.arrive id batch).2.1 = 0 then _ else _) = _
      split
      · exact answer_leaving { w with store := _ } _ _ _
      · rfl

/-- The fault that lies on the next call of a method. -/
def nextFault (w : World) (c : Call) : Fault := w.faultOf (method c) (w.tally.count (method c)).1

/-- A call is counted, and its fault may cancel the callers' passes before it begins. -/
def counting (w : World) (c : Call) : World :=
  cancelIf { w with tally := (w.tally.count (method c)).2 } (w.nextFault c).cancelBefore

/-- The first stage of a call: its fault is looked up, and then it waits or reaches the backend. -/
theorem progress_fresh (w : World) (c : Call) : w.progress c .fresh =
    if (w.nextFault c).delay = 0 then (w.counting c).enter c (w.nextFault c)
    else (w.counting c, .waits (.delayed (w.nextFault c))
      (alarm (w.counting c).now (w.nextFault c).delay)) :=
  rfl

/-- No stage of a call looks at the snapshot or the health, or changes them. -/
theorem progress_leaving (w : World) (c : Call) (stage : Stage) :
    (w.leaving cell status).progress c stage =
      ((w.progress c stage).1.leaving cell status, (w.progress c stage).2) := by
  cases stage with
  | fresh =>
    have hfault : (w.leaving cell status).nextFault c = w.nextFault c := rfl
    have hcounting : (w.leaving cell status).counting c =
        (w.counting c).leaving cell status :=
      cancelIf_leaving { w with tally := (w.tally.count (method c)).2 } _
    rw [progress_fresh, progress_fresh, hfault, hcounting]
    split
    · exact enter_leaving (w.counting c) c _
    · rfl
  | delayed fault => exact enter_leaving w c fault
  | settling number fault =>
    cases c with
    | write id batch =>
      exact answer_leaving { w with store := (w.store.finish number id batch).2 } _ _ _
    | list kind tenant limit token => exact enter_leaving w _ _
    | tenants => exact enter_leaving w _ _
    | openStore tenant => exact enter_leaving w (.openStore tenant) fault
    | read store limit token => exact enter_leaving w _ _

/-- A world in which another snapshot is published. -/
def holding (w : World) (cell : Option Snapshot) : World := { w with snapshot := cell }

/-- What was left in a world did not depend on it. -/
theorem Leaves.holding (h : w.Leaves w') :
    w'.leaving cell w.health = w'.holding cell := by
  rw [← h.health]
  rfl

end World

/-! ## Strands -/

/-- A move that leads to other worlds. -/
def Move.mapWorld {τ : Type u} (f : World → World) : Move τ α → Move τ α
  | .stuck => .stuck
  | .moved w state => .moved (f w) state
  | .ended w result => .ended (f w) result

namespace Strand

variable {s s' : Strand α} {a : α}

/-- What a strand is about to publish. -/
def publishes? : Strand α → Option Snapshot
  | .ready p =>
    match p.head with
    | .ask (.publish snapshot) _ => some snapshot
    | _ => none
  | _ => none

/-- The same of a call that a script waits for. -/
theorem carryOn_leaving (w : World) (c : Call) (stage : Stage) (deadline : Nat)
    (next : Verdict c.Result → Script Request Request.Answer α) :
    carryOn (w.leaving cell status) c stage deadline next =
      ((carryOn w c stage deadline next).1.leaving cell status,
        (carryOn w c stage deadline next).2) := by
  rw [carryOn, World.progress_leaving, carryOn]
  rcases w.progress c stage with ⟨w₁, r | ⟨stage', wake⟩⟩ <;> rfl

/-- A strand that does not publish moves in the same way whatever was left. -/
theorem move_leaving (h : s.publishes? = none) (w : World) (party : Party) (cell : Option Snapshot)
    (status : Health) :
    s.move (w.leaving cell status) party =
      (s.move w party).mapWorld (·.leaving cell status) := by
  have hnow : (w.leaving cell status).now = w.now := rfl
  cases s with
  | ready p =>
    simp only [publishes?] at h
    simp only [move]
    cases hp : p.head with
    | done a => rfl
    | ask q next =>
      rw [hp] at h
      cases q with
      | publish snapshot => cases h
      | call c limit =>
        simp only [World.cancelled_leaving, carryOn_leaving, hnow]
        split <;> rfl
  | limited c stage wake deadline next =>
    simp only [move, World.cancelled_leaving, carryOn_leaving, hnow]
    split
    · rfl
    · split
      · rfl
      · split <;> rfl
  | unlimited c stage wake finish =>
    simp only [move, World.progress_leaving, hnow]
    split
    · rcases w.progress c stage with ⟨w₁, r | ⟨stage', wake'⟩⟩ <;> rfl
    · rfl

/-- A strand that is about to publish does so. -/
theorem move_of_publishes {published : Snapshot} (h : s.publishes? = some published) :
    ∃ s₁, ∀ w party, s.move w party = .moved { w with snapshot := some published } s₁ := by
  cases s with
  | ready p =>
    simp only [publishes?] at h
    split at h
    · next snapshot next hp =>
      cases h
      refine ⟨.ready (next ()), fun w party => ?_⟩
      rw [move, hp]
    · cases h
  | limited c stage wake deadline next => cases h
  | unlimited c stage wake finish => cases h

/-- A step that publishes nothing leaves the snapshot and the health. -/
theorem leaves_of_moved (h : s.publishes? = none) (hmove : s.move w party = .moved w' s') :
    w.Leaves w' := by
  have hsame := move_leaving h w party w.snapshot w.health
  rw [hmove] at hsame
  exact World.leaves_of_eq_leaving (Move.moved.inj (hmove.symm.trans hsame)).1

/-- A script that ends has nothing left to publish. -/
theorem publishes?_of_ended (hmove : s.move w party = .ended w' a) : s.publishes? = none := by
  cases h : s.publishes? with
  | none => rfl
  | some published =>
    obtain ⟨s₁, hpublish⟩ := move_of_publishes h
    cases hmove.symm.trans (hpublish w party)

/-- A strand that comes to its end has left everything as it was. -/
theorem leaves_of_ended (hmove : s.move w party = .ended w' a) : w.Leaves w' := by
  have hsame := move_leaving (publishes?_of_ended hmove) w party w.snapshot w.health
  rw [hmove] at hsame
  exact World.leaves_of_eq_leaving (Move.ended.inj (hmove.symm.trans hsame)).1

/-- A strand never changes the health. -/
theorem health_of_moved (hmove : s.move w party = .moved w' s') : w'.health = w.health := by
  cases h : s.publishes? with
  | none => exact (leaves_of_moved h hmove).health
  | some published =>
    obtain ⟨s₁, hpublish⟩ := move_of_publishes h
    cases hmove.symm.trans (hpublish w party)
    rfl

/-- A step that publishes nothing is possible whatever is published. -/
theorem holding_of_moved (h : s.publishes? = none) (hmove : s.move w party = .moved w' s') :
    s.move (w.holding cell) party = .moved (w'.holding cell) s' := by
  have hsame := move_leaving h w party cell w.health
  rw [hmove, Move.mapWorld, (leaves_of_moved h hmove).holding] at hsame
  exact hsame

/-- So is the end of a script. -/
theorem holding_of_ended (hmove : s.move w party = .ended w' a) :
    s.move (w.holding cell) party = .ended (w'.holding cell) a := by
  have hsame := move_leaving (publishes?_of_ended hmove) w party cell w.health
  rw [hmove, Move.mapWorld, (leaves_of_ended hmove).holding] at hsame
  exact hsame

/-! ### What a strand goes on with -/

/-- Whatever comes, a strand goes on with a script that has a property. -/
def Carries (P : Script Request Request.Answer α → Prop) : Strand α → Prop
  | .ready p => P p
  | .limited _ _ _ _ next => ∀ v, P (next v)
  | .unlimited _ _ _ finish => ∀ r, P (.done (finish r))

section

variable {P : Script Request Request.Answer α → Prop}

/-- What waits for a call carries what every continuation carries. -/
theorem carries_carryOn {c : Call} {stage : Stage} {deadline : Nat}
    {next : Verdict c.Result → Script Request Request.Answer α} (h : ∀ v, P (next v)) :
    (carryOn w c stage deadline next).2.Carries P := by
  rw [carryOn]
  split
  · exact h _
  · rw [park]
    split
    · exact h _
    · exact h

/-- A property that scripts keep when they are answered is kept by a strand that moves. -/
theorem Carries.moved (hP : ∀ {p q next}, P p → p.head = .ask q next → ∀ a, P (next a))
    (h : s.Carries P) (hmove : s.move w party = .moved w' s') : s'.Carries P := by
  cases s with
  | ready p =>
    rw [move] at hmove
    split at hmove
    · cases hmove
    · next hp =>
      cases hmove
      exact hP h hp _
    · next hp =>
      split at hmove
      · cases hmove
        exact hP h hp _
      · cases hmove
        exact carries_carryOn (hP h hp)
  | limited c stage wake deadline next =>
    rw [move] at hmove
    split at hmove
    · cases hmove
      exact h _
    · split at hmove
      · cases hmove
        exact carries_carryOn h
      · split at hmove
        · cases hmove
          exact h _
        · cases hmove
  | unlimited c stage wake finish =>
    rw [move] at hmove
    split at hmove
    · split at hmove
      · cases hmove
      · cases hmove
        exact h
    · cases hmove

end

/-- A strand will never publish. -/
def Quiet (s : Strand α) : Prop := s.Carries (·.Asks Request.IsCall)

/-- A quiet strand does not publish next. -/
theorem Quiet.publishes? (h : s.Quiet) : s.publishes? = none := by
  cases s with
  | ready p =>
    rw [Strand.publishes?]
    split
    · next hp => exact (Asks.head h hp).1.elim
    · rfl
  | limited c stage wake deadline next => rfl
  | unlimited c stage wake finish => rfl

/-- It stays quiet. -/
theorem Quiet.moved (h : s.Quiet) (hmove : s.move w party = .moved w' s') : s'.Quiet :=
  Carries.moved (fun hp hhead => (hp.head hhead).2) h hmove

end Strand

/-! ## Full passes -/

namespace FullPass

variable {p p' : FullPass} {r : Except PassError PassReport}

/-- A full pass will never publish. -/
def Quiet : FullPass → Prop
  | .preparing s => s.Quiet
  | .running _ fleet _ => ∀ e ∈ fleet.running, e.2.Quiet

/-- The pass of a tenant within a full pass is quiet from its start. -/
theorem quiet_tenantStrand (settings : PassSettings) (published : Snapshot) (tenant : String) :
    (tenantStrand settings published tenant).Quiet :=
  Pass.asks_reconcileTenant settings published tenant

/-- Quiet full passes stay quiet, since all passes that they start are. -/
theorem Quiet.goes (h : p.Quiet) (hgoes : p.Goes party w w' p') : p'.Quiet := by
  cases hgoes with
  | prepare hmove => exact Strand.Quiet.moved h hmove
  | launch round hmove =>
    intro e he
    rcases Fleet.of_mem_running_fill he with he | ⟨-, hstart⟩
    · cases he
    · exact hstart ▸ quiet_tenantStrand _ _ e.1
  | turn round round' hturn =>
    intro e he
    cases hturn with
    | advance hi hmove =>
      rcases Fleet.of_mem_running_advance hi he with rfl | ⟨j, -, hj⟩
      · exact (h _ (List.mem_of_getElem? hi)).moved hmove
      · exact h e (List.mem_of_getElem? hj)
    | finish hi hmove =>
      rw [Fleet.finish_eq _ hi] at he
      rcases Fleet.of_mem_running_fill he with he | ⟨-, hstart⟩
      · exact h e (List.mem_of_mem_eraseIdx he)
      · exact hstart ▸ quiet_tenantStrand _ _ e.1

/-- The steps of a full pass leave the health, which is recorded at its end. -/
theorem Goes.health (hgoes : p.Goes party w w' p') : w'.health = w.health := by
  cases hgoes with
  | prepare hmove => exact Strand.health_of_moved hmove
  | launch round hmove => exact (Strand.leaves_of_ended hmove).health
  | turn round round' hturn =>
    cases hturn with
    | advance hi hmove => exact Strand.health_of_moved hmove
    | finish hi hmove => exact (Strand.leaves_of_ended hmove).health

/-- A quiet full pass leaves the snapshot too. -/
theorem Quiet.leaves (h : p.Quiet) (hgoes : p.Goes party w w' p') : w.Leaves w' := by
  cases hgoes with
  | prepare hmove => exact Strand.leaves_of_moved (Strand.Quiet.publishes? h) hmove
  | launch round hmove => exact Strand.leaves_of_ended hmove
  | turn round round' hturn =>
    cases hturn with
    | advance hi hmove =>
      exact Strand.leaves_of_moved (h _ (List.mem_of_getElem? hi)).publishes? hmove
    | finish hi hmove => exact Strand.leaves_of_ended hmove

/-- Its steps are possible whatever is published. -/
theorem Quiet.holding (h : p.Quiet) (hgoes : p.Goes party w w' p') :
    p.Goes party (w.holding cell) (w'.holding cell) p' := by
  cases hgoes with
  | prepare hmove => exact .prepare (Strand.holding_of_moved (Strand.Quiet.publishes? h) hmove)
  | launch round hmove => exact .launch round (Strand.holding_of_ended hmove)
  | turn round round' hturn =>
    cases hturn with
    | advance hi hmove =>
      exact .turn round round' (.advance hi
        (Strand.holding_of_moved (h _ (List.mem_of_getElem? hi)).publishes? hmove))
    | finish hi hmove =>
      exact .turn round round' (.finish hi (Strand.holding_of_ended hmove))

/-- The end of a full pass changes nothing that passes leave behind. -/
theorem Ends.leaves (hends : p.Ends party w w' r) : w.Leaves w' := by
  cases hends with
  | failed hmove => exact Strand.leaves_of_ended hmove
  | reported hreport => exact .refl w

/-- It comes about whatever is published. -/
theorem Ends.holding (hends : p.Ends party w w' r) :
    p.Ends party (w.holding cell) (w'.holding cell) r := by
  cases hends with
  | failed hmove => exact .failed (Strand.holding_of_ended hmove)
  | reported hreport => exact .reported hreport

end FullPass

/-! ## Jobs -/

/-- A pass that is recorded leaves the snapshot. -/
theorem World.snapshot_recordTriggered (w : World) (r : Except PassError TenantReport) :
    (w.recordTriggered r).snapshot = w.snapshot := by
  cases r <;> rfl

/-- Recording a pass and publishing a snapshot do not meet. -/
theorem World.holding_recordTriggered (w : World) (r : Except PassError TenantReport) :
    (w.recordTriggered r).holding cell = (w.holding cell).recordTriggered r := by
  cases r <;> rfl

namespace Job

variable {j j' : Job} {outcome : Outcome}

/-- A job will never publish. -/
def Quiet : Job → Prop
  | .single _ s => s.Quiet
  | .triggered s => s.Quiet
  | .full _ p => p.Quiet

/-- Quiet jobs stay quiet. -/
theorem Quiet.goes (h : j.Quiet) (hgoes : j.Goes w w' j') : j'.Quiet := by
  cases hgoes with
  | single hmove => exact Strand.Quiet.moved h hmove
  | triggered hmove => exact Strand.Quiet.moved h hmove
  | full hgoes => exact FullPass.Quiet.goes h hgoes

/-- Until its end a job leaves the health. -/
theorem Goes.health (hgoes : j.Goes w w' j') : w'.health = w.health := by
  cases hgoes with
  | single hmove => exact Strand.health_of_moved hmove
  | triggered hmove => exact Strand.health_of_moved hmove
  | full hgoes => exact hgoes.health

/-- A quiet job leaves the snapshot as well. -/
theorem Quiet.leaves (h : j.Quiet) (hgoes : j.Goes w w' j') : w.Leaves w' := by
  cases hgoes with
  | single hmove => exact Strand.leaves_of_moved (Strand.Quiet.publishes? h) hmove
  | triggered hmove => exact Strand.leaves_of_moved (Strand.Quiet.publishes? h) hmove
  | full hgoes => exact FullPass.Quiet.leaves h hgoes

/-- A quiet job takes the same step whatever snapshot is published. -/
theorem Quiet.holding (h : j.Quiet) (hgoes : j.Goes w w' j') :
    j.Goes (w.holding cell) (w'.holding cell) j' := by
  cases hgoes with
  | single hmove => exact .single (Strand.holding_of_moved (Strand.Quiet.publishes? h) hmove)
  | triggered hmove =>
    exact .triggered (Strand.holding_of_moved (Strand.Quiet.publishes? h) hmove)
  | full hgoes => exact .full (FullPass.Quiet.holding h hgoes)

/-- The end of a job leaves the published snapshot as it is. -/
theorem Ends.snapshot (hends : j.Ends w w' outcome) : w'.snapshot = w.snapshot := by
  cases hends with
  | single hmove => exact (Strand.leaves_of_ended hmove).snapshot
  | triggered hmove =>
    have hleaves := Strand.leaves_of_ended hmove
    exact (World.snapshot_recordTriggered _ _).trans hleaves.snapshot
  | full hends =>
    split <;> exact hends.leaves.snapshot

/-- A job ends in the same way whatever snapshot is published. -/
theorem Ends.holding (hends : j.Ends w w' outcome) :
    j.Ends (w.holding cell) (w'.holding cell) outcome := by
  cases hends with
  | single hmove => exact .single (Strand.holding_of_ended hmove)
  | triggered hmove =>
    rw [World.holding_recordTriggered]
    exact .triggered (Strand.holding_of_ended hmove)
  | full hends =>
    rw [apply_ite (World.holding · cell)]
    exact .full hends.holding

end Job

end Simulation

end PolicySync
