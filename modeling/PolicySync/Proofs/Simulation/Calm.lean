import PolicySync.Proofs.Memory.Backends
import PolicySync.Proofs.Script
import PolicySync.Simulation.Strand

/-!
# Calm worlds

A world is calm for a party when nothing is laid on the party's calls: there are no faults, no write
call is delayed, and the party is not cancelled. In a calm world every call ends at once, so a strand
never waits, and it ends just as its script does when the backends answer (`Strand.Ends.script`, `Strand.ends_of_script`).
-/

namespace PolicySync.Simulation

open Memory

/-- The lister and the store of a world. -/
def World.backends (w : World) : Backends := { lister := w.lister, store := w.store }

/-- Nothing is laid on the calls of a party. -/
structure World.Calm (w : World) (party : Party) : Prop where
  faults : w.faults = []
  delays : w.store.delays = SortedMap.empty
  cancelled : w.cancelled party = false

/-- By its own moves alone a strand comes to its end with a result. -/
inductive Strand.Ends {α : Type} (party : Party) : World → Strand α → α → World → Prop where
  | ended {w w' : World} {s : Strand α} {a : α} (h : s.move w party = .ended w' a) :
      Ends party w s a w'
  | moved {w w₁ w' : World} {s s₁ : Strand α} {a : α} (h : s.move w party = .moved w₁ s₁)
      (hrest : Ends party w₁ s₁ a w') : Ends party w s a w'

variable {w w' : World} {party : Party}

/-! ## Calls -/

/-- Without a fault a result is left as it is. -/
theorem Fault.adjust_default (c : Call) (r : c.Result) : Fault.adjust {} c r = r := by
  cases c with
  | list kind tenant limit token => cases r <;> rfl
  | tenants => rfl
  | openStore tenant => rfl
  | read store limit token => cases r <;> rfl
  | write store batch => rfl

/-- Calls do not delay later write calls. -/
theorem delays_call (b : Backends) (c : Call) : (b.call c).2.store.delays = b.store.delays := by
  cases c with
  | list kind tenant limit token => rfl
  | tenants => rfl
  | openStore tenant =>
    show (b.store.getOrCreate tenant).2.delays = b.store.delays
    unfold Store.getOrCreate
    split <;> rfl
  | read store limit token => rfl
  | write store batch =>
    show ((b.store.arrive store batch).2.2.finish _ store batch).2.delays = b.store.delays
    unfold Store.finish
    split
    · rfl
    · split <;> rfl

/-- Without a fault a call is answered at once. -/
theorem answer_default (w : World) (c : Call) (r : c.Result) : w.answer c {} r = (w, .ended r) := by
  rw [World.answer, Fault.adjust_default]
  rfl

/-- Who is cancelled does not depend on the backends. -/
theorem World.cancelled_with (w : World) (lister : Lister) (store : Store) (tally : Tally)
    (party : Party) : World.cancelled { w with lister, store, tally } party = w.cancelled party := by
  cases party <;> rfl

/-- In a calm world a call whose fault does nothing reaches its backend and ends. -/
theorem World.Calm.enter (h : w.Calm party) (c : Call) :
    w.enter c {} = ({ w with
      lister := (w.backends.call c).2.lister
      store := (w.backends.call c).2.store }, .ended (w.backends.call c).1) := by
  cases c with
  | list kind tenant limit token => exact answer_default _ _ _
  | tenants => exact answer_default _ _ _
  | openStore tenant => exact answer_default _ _ _
  | read store limit token => exact answer_default _ _ _
  | write id batch =>
    have hwait : (w.store.arrive id batch).2.1 = 0 := by
      rw [Store.arrive, h.delays]
      rfl
    show (if (w.store.arrive id batch).2.1 = 0 then _ else _) = _
    rw [if_pos hwait]
    exact answer_default _ _ _

/-- In a calm world a call ends at once with what its backend returns. -/
theorem World.Calm.progress (h : w.Calm party) (c : Call) :
    ∃ w₁, w.progress c .fresh = (w₁, .ended (w.backends.call c).1) ∧
      w₁.backends = (w.backends.call c).2 ∧ w₁.Calm party := by
  let counted : World := { w with tally := (w.tally.count (method c)).2 }
  have hcounted : counted.Calm party :=
    ⟨h.faults, h.delays, (w.cancelled_with _ _ _ party).trans h.cancelled⟩
  have hfault : ∀ number, w.faultOf (method c) number = {} := by
    intro number
    rw [faultOf, h.faults]
    rfl
  refine ⟨{ counted with
    lister := (w.backends.call c).2.lister
    store := (w.backends.call c).2.store }, ?_, rfl, h.faults, ?_, ?_⟩
  · rw [World.progress]
    simp only [hfault]
    exact hcounted.enter c
  · exact (delays_call w.backends c).trans h.delays
  · exact (w.cancelled_with _ _ _ party).trans h.cancelled

/-! ## Strands -/

/-- A strand in a calm world asks its question and goes on with the answer. -/
theorem World.Calm.move {α : Type} (h : w.Calm party) {p : Script Request Request.Answer α}
    {q : Request} {next : q.Answer → Script Request Request.Answer α} (hq : p.head = .ask q next) :
    ∃ w₁, Strand.move w party (.ready p) =
        .moved w₁ (.ready (next (Backends.answer q w.backends).1)) ∧
      w₁.backends = (Backends.answer q w.backends).2 ∧ w₁.Calm party := by
  cases q with
  | publish snapshot =>
    refine ⟨{ w with snapshot := some snapshot }, ?_, rfl, h.faults, h.delays, ?_⟩
    · rw [Strand.move, hq]
    · have hcancelled := h.cancelled
      cases party <;> exact hcancelled
  | call c limit =>
    obtain ⟨w₁, hprogress, hbackends, hcalm⟩ := h.progress c
    refine ⟨w₁, ?_, hbackends, hcalm⟩
    rw [Strand.move, hq]
    simp only [h.cancelled, Bool.false_eq_true, if_false, Strand.carryOn, hprogress]
    rfl

/-- A script that is done ends. -/
theorem move_of_done {α : Type} {p : Script Request Request.Answer α} {a : α}
    (hp : p.head = .done a) : Strand.move w party (.ready p) = .ended w a := by
  rw [Strand.move, hp]

/-- A strand that ends in a calm world ends as its script does. -/
theorem Strand.Ends.script {α : Type} {p : Script Request Request.Answer α} {a : α}
    (hw : w.Calm party) (h : Strand.Ends party w (.ready p) a w') :
    Script.Ends Backends.answer p w.backends a w'.backends ∧ w'.Calm party := by
  generalize hs : Strand.ready p = s at h
  induction h generalizing p with
  | ended hmove =>
    subst hs
    -- In a calm world a strand is between two calls at every step.
    cases hp : p.head with
    | done a' =>
      rw [move_of_done hp] at hmove
      cases hmove
      exact ⟨.done hp, hw⟩
    | ask q next =>
      obtain ⟨w₁, hmove', -⟩ := hw.move hp
      rw [hmove'] at hmove
      cases hmove
  | moved hmove hrest ih =>
    subst hs
    cases hp : p.head with
    | done a' =>
      rw [move_of_done hp] at hmove
      cases hmove
    | ask q next =>
      obtain ⟨w₁, hmove', hbackends, hcalm⟩ := hw.move hp
      rw [hmove'] at hmove
      cases hmove
      obtain ⟨hscript, hcalm'⟩ := ih hcalm rfl
      exact ⟨.ask hp (hbackends ▸ hscript), hcalm'⟩

/-- A script that ends is carried to its end by a strand in a calm world. -/
theorem Strand.ends_of_script {α : Type} {p : Script Request Request.Answer α} {a : α}
    {b b' : Backends} (h : Script.Ends Backends.answer p b a b') (hw : w.Calm party)
    (hb : w.backends = b) :
    ∃ w', Strand.Ends party w (.ready p) a w' ∧ w'.backends = b' := by
  induction h generalizing w with
  | done hp => exact ⟨w, .ended (move_of_done hp), hb⟩
  | ask hp _ ih =>
    subst hb
    obtain ⟨w₁, hmove, hbackends, hcalm⟩ := hw.move hp
    obtain ⟨w', hends, hb'⟩ := ih hcalm hbackends
    exact ⟨w', .moved hmove hends, hb'⟩

end PolicySync.Simulation
