import Mathlib.Data.List.ReduceOption
import Mathlib.Data.Multiset.AddSub
import PolicySync.Proofs.Memory.Store
import PolicySync.Proofs.Simulation.Steps

/-!
# What a cancelled pass still does

Once its party is cancelled a pass starts no call, and it gives up the calls that it waits for, all
but the writes. Those go on to their end or their deadline, so stored tuples change only when one of
the writes that were in flight at the cancellation takes effect, each at most once. `World.Lands`
says what one step does to the backends, `Heeds` what it leaves of the writes in flight, for a
strand, a full pass with any number of tenants' passes, and a job; `Job.Underway.lands` follows both
through a whole run.
-/

namespace PolicySync

namespace Memory.WriteCall

/-- The tuples of all stores after a write call that reaches its store. -/
def land (c : WriteCall) (contents : SortedMap String TupleSet) : SortedMap String TupleSet :=
  match contents.get? c.store with
  | none => contents
  | some tuples => contents.insert c.store (c.batch.applyTo tuples)

end Memory.WriteCall

open Memory (WriteCall Store)

/-- The write that a call stands for, if it is one. -/
def Call.writes : Call → Multiset WriteCall
  | .write store batch => {⟨store, batch⟩}
  | _ => 0

namespace Simulation

variable {α : Type} {party : Party} {w w₁ w' : World} {c : Call} {stage : Stage}

/-! ## Worlds -/

namespace World

/-- No call was started, no lister and no tenant's store was touched, and no tuples changed but by a
write that landed. -/
structure Lands (w : World) (landed : Option WriteCall) (w' : World) : Prop where
  tally : w'.tally = w.tally
  lister : w'.lister = w.lister
  ids : w'.store.ids = w.store.ids
  contents : w'.store.contents = landed.elim w.store.contents fun c => c.land w.store.contents

theorem Lands.refl (w : World) : w.Lands none w := ⟨rfl, rfl, rfl, rfl⟩

/-- Nothing more happens in a step in which nothing lands. -/
theorem Lands.trans {landed : Option WriteCall} (h : w.Lands landed w₁) (h' : w₁.Lands none w') :
    w.Lands landed w' :=
  ⟨h'.tally.trans h.tally, h'.lister.trans h.lister, h'.ids.trans h.ids,
    h'.contents.trans h.contents⟩

/-- To cancel somebody is neither a call nor a write. -/
theorem lands_cancelIf (w : World) (b : Bool) : w.Lands none (w.cancelIf b) := by
  cases b <;> exact ⟨rfl, rfl, rfl, rfl⟩

/-- A cancellation by a fault takes none back. -/
theorem cancelled_cancelIf (hc : w.cancelled party = true) (b : Bool) :
    (w.cancelIf b).cancelled party = true := by
  cases b with
  | false => exact hc
  | true => cases party with
    | caller => rfl
    | scheduler => exact hc

/-- Nothing that a call does takes a cancellation back. -/
theorem cancelled_enter (hc : w.cancelled party = true) (c : Call) (fault : Fault) :
    (w.enter c fault).1.cancelled party = true := by
  cases c with
  | list kind tenant limit token =>
    exact cancelled_cancelIf (by cases party <;> exact hc) fault.cancelAfter
  | tenants => exact cancelled_cancelIf hc fault.cancelAfter
  | openStore tenant =>
    simp only [enter]
    split
    · exact cancelled_cancelIf hc fault.cancelAfter
    · exact cancelled_cancelIf (by cases party <;> exact hc) fault.cancelAfter
  | read store limit token => exact cancelled_cancelIf hc fault.cancelAfter
  | write id batch =>
    simp only [enter]
    split
    · exact cancelled_cancelIf hc fault.cancelAfter
    · split
      · exact cancelled_cancelIf (by cases party <;> exact hc) fault.cancelAfter
      · cases party <;> exact hc

/-- Nor does any stage of a call. -/
theorem cancelled_progress (hc : w.cancelled party = true) (c : Call) (stage : Stage) :
    (w.progress c stage).1.cancelled party = true := by
  cases stage with
  | fresh =>
    simp only [progress]
    -- Counting the call does not change who is cancelled.
    have hcounted : ∀ b, (World.cancelIf
        { w with tally := (w.tally.count (method c)).2 } b).cancelled party = true :=
      cancelled_cancelIf (by cases party <;> exact hc)
    split
    · exact cancelled_enter (hcounted _) c _
    · exact hcounted _
  | delayed fault => exact cancelled_enter hc c fault
  | settling number fault =>
    cases c with
    | write id batch => exact cancelled_cancelIf (by cases party <;> exact hc) fault.cancelAfter
    | list kind tenant limit token => exact cancelled_enter hc _ fault
    | tenants => exact cancelled_enter hc _ fault
    | openStore tenant => exact cancelled_enter hc _ fault
    | read store limit token => exact cancelled_enter hc _ fault

end World

namespace Progress

/-- The write that a call still has to make. -/
def pending : Progress c → Multiset WriteCall
  | ended _ => 0
  | waits _ _ => c.writes

/-- Whether a call that waits has begun. -/
def Begun : Progress c → Prop
  | ended _ => True
  | waits stage _ => stage ≠ .fresh

end Progress

namespace World

/-- A call that has reached its backend waits for that backend or is over. -/
theorem begun_enter (w : World) (c : Call) (fault : Fault) : (w.enter c fault).2.Begun := by
  cases c with
  | list kind tenant limit token => trivial
  | tenants => trivial
  | openStore tenant =>
    simp only [enter]
    split <;> trivial
  | read store limit token => trivial
  | write id batch =>
    simp only [enter]
    split
    · trivial
    · split
      · trivial
      · exact Stage.noConfusion

/-- A call that waits has begun. -/
theorem begun_progress (w : World) (c : Call) (stage : Stage) : (w.progress c stage).2.Begun := by
  cases stage with
  | fresh =>
    simp only [progress]
    split
    · exact begun_enter _ c _
    · exact Stage.noConfusion
  | delayed fault => exact begun_enter w c fault
  | settling number fault =>
    cases c with
    | write id batch => trivial
    | list kind tenant limit token => exact begun_enter w _ fault
    | tenants => exact begun_enter w _ fault
    | openStore tenant => exact begun_enter w _ fault
    | read store limit token => exact begun_enter w _ fault

/-- When a write call has its effect, it lands or it fails. -/
private theorem lands_finish (w : World) (number : Nat) (id : String) (batch : Batch) :
    ∃ landed : Option WriteCall, (landed.toList : Multiset WriteCall) ≤ {⟨id, batch⟩} ∧
      w.Lands landed { w with store := (w.store.finish number id batch).2 } := by
  rcases Store.finish_cases w.store number id batch with ⟨e, heq⟩ | ⟨tuples, htuples, heq⟩
  · rw [heq]
    exact ⟨none, bot_le, .refl w⟩
  · rw [heq]
    refine ⟨some ⟨id, batch⟩, le_rfl, rfl, rfl, rfl, ?_⟩
    simp only [Option.elim_some, WriteCall.land, htuples]
    rfl

/-- A write call that has begun goes on: it starts no other call, and it lands at most once. -/
theorem lands_progress (id : String) (batch : Batch) (hstage : stage ≠ .fresh) :
    ∃ landed : Option WriteCall,
      w.Lands landed (w.progress (.write id batch) stage).1 ∧
        (landed.toList : Multiset WriteCall) + (w.progress (.write id batch) stage).2.pending ≤
          {⟨id, batch⟩} := by
  cases stage with
  | fresh => exact absurd rfl hstage
  | delayed fault =>
    simp only [progress, enter]
    split
    · exact ⟨none, lands_cancelIf w _, bot_le⟩
    · split
      · obtain ⟨landed, hle, hlands⟩ :=
          lands_finish { w with store := (w.store.arrive id batch).2.2 }
            (w.store.arrive id batch).1 id batch
        refine ⟨landed, Lands.trans ⟨hlands.tally, hlands.lister, hlands.ids, hlands.contents⟩
          (lands_cancelIf _ fault.cancelAfter), ?_⟩
        simp only [answer, Progress.pending, add_zero]
        exact hle
      · exact ⟨none, ⟨rfl, rfl, rfl, rfl⟩, le_rfl⟩
  | settling number fault =>
    obtain ⟨landed, hle, hlands⟩ := lands_finish w number id batch
    refine ⟨landed, hlands.trans (lands_cancelIf _ fault.cancelAfter), ?_⟩
    simp only [progress, answer, Progress.pending, add_zero]
    exact hle

end World

/-- What a step leaves of the writes in flight. It takes no cancellation back, and when its party is
cancelled it starts no call, and only a write in flight may land. -/
structure Heeds (party : Party) (w : World) (before : Multiset WriteCall) (w' : World)
    (after : Multiset WriteCall) : Prop where
  cancelled : ∀ party, w.cancelled party = true → w'.cancelled party = true
  lands : w.cancelled party = true → ∃ landed : Option WriteCall, w.Lands landed w' ∧
    (landed.toList : Multiset WriteCall) + after ≤ before

namespace Heeds

variable {before after : Multiset WriteCall}

/-- Where the world stays as it is, fewer writes may be in flight. -/
theorem refl (hle : after ≤ before) : Heeds party w before w after :=
  ⟨fun _ hc => hc, fun _ => ⟨none, .refl w, (zero_add after).trans_le hle⟩⟩

/-- Writes that others have in flight stay there. -/
theorem frame (h : Heeds party w before w' after) (others : Multiset WriteCall) :
    Heeds party w (before + others) w' (after + others) := by
  refine ⟨h.cancelled, fun hc => ?_⟩
  obtain ⟨landed, hlands, hle⟩ := h.lands hc
  refine ⟨landed, hlands, ?_⟩
  rw [← add_assoc]
  exact add_le_add_left hle others

end Heeds

/-! ## Strands -/

namespace Strand

variable {s s' : Strand α}

/-- A strand waits only for calls that have begun, each with a limit. -/
def Underway : Strand α → Prop
  | .ready _ => True
  | .limited _ stage _ _ _ => stage ≠ .fresh
  | .unlimited _ _ _ _ => False

/-- The write that a strand has started and not heard of. -/
def inFlight : Strand α → Multiset WriteCall
  | .ready _ => 0
  | .limited c _ _ _ _ => c.writes
  | .unlimited c _ _ _ => c.writes

/-- A strand that carries a call on waits for it, with the writes that the call has left. -/
theorem carryOn_eq (w : World) (c : Call) (stage : Stage) (deadline : Nat)
    (next : Verdict c.Result → Script Request Request.Answer α) :
    (carryOn w c stage deadline next).1 = (w.progress c stage).1 ∧
      (carryOn w c stage deadline next).2.Underway ∧
      (carryOn w c stage deadline next).2.inFlight ≤ (w.progress c stage).2.pending := by
  have hbegun := w.begun_progress c stage
  unfold carryOn
  split
  · next heq =>
    rw [heq]
    exact ⟨rfl, trivial, le_rfl⟩
  · next heq =>
    rw [heq] at hbegun ⊢
    refine ⟨rfl, ?_, ?_⟩ <;> unfold park <;> split
    · trivial
    · exact hbegun
    · exact bot_le
    · exact le_rfl

/-- What a step of a strand can be. -/
inductive Moves (party : Party) (w : World) : Strand α → World → Strand α → Prop where
  | publish {p p' : Script Request Request.Answer α} (snapshot : Snapshot) :
      Moves party w (.ready p) { w with snapshot := some snapshot } (.ready p')
  /-- A call is denied, given up or out of time. -/
  | leave {s : Strand α} {p : Script Request Request.Answer α} : Moves party w s w (.ready p)
  | start {p : Script Request Request.Answer α} {c : Call} {deadline : Nat}
      {next : Verdict c.Result → Script Request Request.Answer α} (hc : w.cancelled party ≠ true) :
      Moves party w (.ready p) (carryOn w c .fresh deadline next).1
        (carryOn w c .fresh deadline next).2
  | goOn {c : Call} {stage : Stage} {wake deadline : Nat}
      {next : Verdict c.Result → Script Request Request.Answer α}
      (hkept : ¬ (c.abandoned && w.cancelled party) = true) :
      Moves party w (.limited c stage wake deadline next) (carryOn w c stage deadline next).1
        (carryOn w c stage deadline next).2

/-- A step of a strand is one of the four kinds. -/
theorem moves_of_move (hs : s.Underway) (h : s.move w party = .moved w' s') :
    Moves party w s w' s' := by
  cases s with
  | ready p =>
    rw [move] at h
    split at h
    · cases h
    · cases h
      exact .publish _
    · split at h
      · cases h
        exact .leave
      · next hc =>
        cases h
        exact .start hc
  | limited c stage wake deadline next =>
    rw [move] at h
    split at h
    · cases h
      exact .leave
    · next hkept =>
      split at h
      · cases h
        exact .goOn hkept
      · split at h
        · cases h
          exact .leave
        · cases h
  -- Passes make no call without a limit.
  | unlimited c stage wake finish => exact hs.elim

/-- A strand that waits goes on waiting for calls that have begun. -/
theorem Underway.move (hs : s.Underway) (h : s.move w party = .moved w' s') : s'.Underway := by
  cases moves_of_move hs h with
  | publish snapshot => trivial
  | leave => trivial
  | start hc => exact (carryOn_eq _ _ _ _ _).2.1
  | goOn hkept => exact (carryOn_eq _ _ _ _ _).2.1

/-- A step of a strand heeds the cancellation of its party. -/
theorem Underway.heeds (hs : s.Underway) (h : s.move w party = .moved w' s') :
    Heeds party w s.inFlight w' s'.inFlight := by
  cases moves_of_move hs h with
  | publish snapshot => exact ⟨fun party hc => by cases party <;> exact hc, fun _ =>
      ⟨none, ⟨rfl, rfl, rfl, rfl⟩, le_rfl⟩⟩
  | leave => exact .refl (bot_le : (0 : Multiset WriteCall) ≤ _)
  | start hc' =>
    refine ⟨fun party hc => ?_, fun hc => absurd hc hc'⟩
    rw [(carryOn_eq _ _ _ _ _).1]
    exact World.cancelled_progress hc _ _
  | @goOn c stage wake deadline next hkept =>
    obtain ⟨heq, -, hle⟩ := carryOn_eq w c stage deadline next
    refine ⟨fun party hc => heq ▸ World.cancelled_progress hc _ _, fun hc => ?_⟩
    -- What is not given up is a write.
    obtain ⟨id, batch, rfl⟩ : ∃ id batch, c = .write id batch := by
      cases c with
      | write id batch => exact ⟨id, batch, rfl⟩
      | _ => exact absurd hc hkept
    obtain ⟨landed, hlands, hpending⟩ := World.lands_progress (w := w) id batch hs
    exact ⟨landed, heq ▸ hlands, (add_le_add_right hle _).trans hpending⟩

/-- A strand that comes to its end leaves the world as it is. -/
theorem Underway.eq_of_ended (hs : s.Underway) {a : α} (h : s.move w party = .ended w' a) :
    w' = w ∧ s.inFlight = 0 := by
  cases s with
  | ready p =>
    rw [Strand.move] at h
    split at h
    · cases h
      exact ⟨rfl, rfl⟩
    · cases h
    · split at h <;> cases h
  | limited c stage wake deadline next =>
    rw [Strand.move] at h
    split at h
    · cases h
    · split at h
      · cases h
      · split at h <;> cases h
  | unlimited c stage wake finish => exact hs.elim

end Strand

/-! ## Full passes -/

namespace FullPass

variable {fleet : Fleet (Strand (Except PassError TenantReport))} {p p' : FullPass}

/-- The writes that passes of a fleet have in flight. -/
def load (fleet : Fleet (Strand (Except PassError TenantReport))) : Multiset WriteCall :=
  (fleet.running.map fun e => e.2.inFlight).sum

/-- All strands of a full pass wait for calls that have begun. -/
def Underway : FullPass → Prop
  | .preparing s => s.Underway
  | .running _ fleet _ => ∀ e ∈ fleet.running, e.2.Underway

/-- The writes that a full pass has in flight. -/
def inFlight : FullPass → Multiset WriteCall
  | .preparing s => s.inFlight
  | .running _ fleet _ => load fleet

/-- A full pass that starts waits for nothing. -/
theorem underway_start (settings : PassSettings) : (start settings).Underway :=
  trivial

/-- Passes that are started have no write in flight. -/
theorem load_fill (settings : PassSettings) (snapshot : Snapshot)
    (fleet : Fleet (Strand (Except PassError TenantReport))) :
    load (fleet.fill (tenantStrand settings snapshot)) = load fleet := by
  have hnew : ∀ l : List String, ((l.map fun t => (t, tenantStrand settings snapshot t)).map
      fun e => e.2.inFlight).sum = 0 := by
    intro l
    rw [List.map_map]
    exact List.sum_eq_zero fun m hm => by
      obtain ⟨t, -, rfl⟩ := List.mem_map.1 hm
      rfl
  rw [load, Fleet.fill, List.map_append, List.sum_append, hnew, add_zero, load]

variable {i : Nat} {tenant : String} {s s' : Strand (Except PassError TenantReport)}

/-- One pass among those of a fleet. -/
theorem load_eq (hi : fleet.running[i]? = some (tenant, s)) :
    load fleet = s.inFlight + ((fleet.running.eraseIdx i).map fun e => e.2.inFlight).sum := by
  obtain ⟨hlt, hget⟩ := List.getElem?_eq_some_iff.1 hi
  have hperm := (List.getElem_cons_eraseIdx_perm hlt).map fun e => e.2.inFlight
  rw [load, ← hperm.sum_eq, List.map_cons, List.sum_cons, hget]

/-- The same after that pass has gone on. -/
theorem load_advance (hi : fleet.running[i]? = some (tenant, s)) :
    load (fleet.advance i s') =
      s'.inFlight + ((fleet.running.eraseIdx i).map fun e => e.2.inFlight).sum := by
  have hi' : (fleet.advance i s').running[i]? = some (tenant, s') := by
    rw [Fleet.advance, List.getElem?_modify, hi]
    simp only [if_true, Option.map_eq_map, Option.map_some]
  rw [load_eq hi', Fleet.advance, List.eraseIdx_modify_of_eq]

/-- The start of a full pass, and of each tenant's pass in it, waits for nothing. -/
theorem Underway.goes (hp : p.Underway) (h : p.Goes party w w' p') : p'.Underway := by
  cases h with
  | prepare h => exact Strand.Underway.move hp h
  -- Passes that are started now have made no call yet.
  | launch round h =>
    intro e he
    rcases Fleet.of_mem_running_fill he with he | ⟨-, hs⟩
    · cases he
    · rw [hs]
      trivial
  | turn round round' h =>
    cases h with
    | advance hi h =>
      intro e he
      rcases Fleet.of_mem_running_advance hi he with rfl | ⟨j, -, hj⟩
      · exact (hp _ (List.mem_of_getElem? hi)).move h
      · exact hp e (List.mem_of_getElem? hj)
    | finish hi h =>
      intro e he
      rw [Fleet.finish_eq _ hi] at he
      rcases Fleet.of_mem_running_fill he with he | ⟨-, hs⟩
      · exact hp e (List.mem_of_mem_eraseIdx he)
      · rw [hs]
        trivial

/-- A step of a full pass heeds the cancellation of its party. -/
theorem Underway.heeds (hp : p.Underway) (h : p.Goes party w w' p') :
    Heeds party w p.inFlight w' p'.inFlight := by
  cases h with
  | prepare h => exact Strand.Underway.heeds hp h
  -- The preparation has ended, so it has nothing in flight.
  | launch round h =>
    obtain ⟨rfl, hnone⟩ := Strand.Underway.eq_of_ended hp h
    refine .refl (le_of_eq ?_)
    exact (load_fill _ _ _).trans hnone.symm
  | turn round round' h =>
    cases h with
    | advance hi h =>
      simp only [inFlight]
      rw [load_eq hi, load_advance hi]
      exact (Strand.Underway.heeds (hp _ (List.mem_of_getElem? hi)) h).frame _
    | finish hi h =>
      obtain ⟨rfl, hnone⟩ := Strand.Underway.eq_of_ended (hp _ (List.mem_of_getElem? hi)) h
      refine .refl (le_of_eq ?_)
      simp only [inFlight]
      rw [Fleet.finish_eq _ hi, load_fill, load_eq hi, hnone, zero_add, load]

/-- A full pass that comes to its end leaves the world as it is. -/
theorem Underway.eq_of_ends (hp : p.Underway) {r : Except PassError PassReport}
    (h : p.Ends party w w' r) : w' = w := by
  cases h with
  | failed h => exact (Strand.Underway.eq_of_ended hp h).1
  | reported h => rfl

end FullPass

/-! ## Jobs -/

namespace Job

variable {j j' : Job}

/-- Whose cancellation a job heeds. -/
def heeded : Job → Party
  | .single party _ => party
  | .triggered _ => .scheduler
  | .full party _ => party

/-- All strands of a job wait for calls that have begun, each with a limit. -/
def Underway : Job → Prop
  | .single _ s => s.Underway
  | .triggered s => s.Underway
  | .full _ p => p.Underway

/-- The writes that a job has in flight. -/
def inFlight : Job → Multiset WriteCall
  | .single _ s => s.inFlight
  | .triggered s => s.inFlight
  | .full _ p => p.inFlight

/-- A job heeds the same cancellation all the time. -/
theorem heeded_of_goes (h : j.Goes w w' j') : j'.heeded = j.heeded := by
  cases h <;> rfl

/-- Whatever a job waits for has begun. -/
theorem Underway.goes (hj : j.Underway) (h : j.Goes w w' j') : j'.Underway := by
  cases h with
  | single h => exact Strand.Underway.move hj h
  | triggered h => exact Strand.Underway.move hj h
  | full h => exact FullPass.Underway.goes hj h

/-- A step of a job heeds the cancellation of its party. -/
theorem Underway.heeds (hj : j.Underway) (h : j.Goes w w' j') :
    Heeds j.heeded w j.inFlight w' j'.inFlight := by
  cases h with
  | single h => exact Strand.Underway.heeds hj h
  | triggered h => exact Strand.Underway.heeds hj h
  | full h => exact FullPass.Underway.heeds hj h

/-- A job that comes to its end changes the health at most. -/
theorem Underway.health_of_ends (hj : j.Underway) {outcome : Outcome} (h : j.Ends w w' outcome) :
    ∃ health, w' = { w with health } := by
  cases h with
  | single h => exact ⟨w.health, (Strand.Underway.eq_of_ended hj h).1⟩
  | @triggered _ _ r h =>
    rw [(Strand.Underway.eq_of_ended hj h).1]
    cases r <;> exact ⟨_, rfl⟩
  | full h =>
    rw [FullPass.Underway.eq_of_ends hj h]
    split
    · exact ⟨_, rfl⟩
    · exact ⟨w.health, rfl⟩

/-- The writes that a job has in flight if it has not ended. -/
def left (j : Option Job) : Multiset WriteCall := j.elim 0 inFlight

/-- A run keeps what a job waits for and whom it heeds. -/
theorem Underway.run {log : List (World × World)} (hj : j.Underway)
    (h : Run party w j log w' (some j')) : j'.Underway ∧ j'.heeded = j.heeded := by
  generalize hend : some j' = e at h
  induction h with
  | stay =>
    cases hend
    exact ⟨hj, rfl⟩
  | go h _ ih =>
    obtain ⟨hunderway, hheeded⟩ := ih (hj.goes h) hend
    exact ⟨hunderway, hheeded.trans (heeded_of_goes h)⟩
  | beside _ _ ih => exact ih hj hend
  | finish _ => cases hend

/-- Once its party is cancelled a job starts no call, and each write in flight lands at most once.
-/
theorem Underway.lands {log : List (World × World)} {end? : Option Job} (hj : j.Underway)
    (hheeded : j.heeded = party) (hc : w.cancelled party = true)
    (h : Run party w j log w' end?) :
    ∃ landed : List (Option WriteCall),
      List.Forall₂ (fun step l => World.Lands step.1 l step.2) log landed ∧
        (landed.reduceOption : Multiset WriteCall) + left end? ≤ j.inFlight := by
  induction h with
  | stay => exact ⟨[], .nil, (zero_add _).le⟩
  | go h _ ih =>
    have hheeds := hj.heeds h
    rw [hheeded] at hheeds
    obtain ⟨landed, hlands, hle⟩ := hheeds.lands hc
    obtain ⟨rest, hrest, hle'⟩ := ih (hj.goes h) ((heeded_of_goes h).trans hheeded)
      (hheeds.cancelled _ hc)
    refine ⟨landed :: rest, .cons hlands hrest, le_trans ?_ hle⟩
    have hcons : ((landed :: rest).reduceOption : Multiset WriteCall) =
        landed.toList + (rest.reduceOption : Multiset WriteCall) := by
      cases landed <;> rfl
    rw [hcons, add_assoc]
    exact add_le_add_right hle' _
  | beside h _ ih => exact ih hj hheeded (h hc)
  | finish h =>
    obtain ⟨health, rfl⟩ := hj.health_of_ends h
    exact ⟨[none], .cons ⟨rfl, rfl, rfl, rfl⟩ .nil, bot_le⟩

end Job

end Simulation

end PolicySync
