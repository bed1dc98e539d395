import PolicySync.Proofs.Pass.Survey

/-!
# The name of the store does not matter

Once a tenant's store has been opened, the pass uses its name only to read and to write there, and
for its report. `Pass.relocate` gives a script another store to read and write: the rest of the pass
under one name, relocated, is the rest of the pass under the other (`relocate_afterOpening`).
-/

namespace PolicySync

open Script (Asks)

/-- The call with another store to read or to write. -/
def Call.relocate (id : String) : Call → Call
  | .list kind tenant limit token => .list kind tenant limit token
  | .tenants => .tenants
  | .openStore tenant => .openStore tenant
  | .read _ limit token => .read id limit token
  | .write _ batch => .write id batch

/-- What is heard of a relocated call as what is heard of the call itself. -/
def Call.verdictBack (id : String) : (c : Call) → Verdict (c.relocate id).Result → Verdict c.Result
  | .list _ _ _ _, v => v
  | .tenants, v => v
  | .openStore _, v => v
  | .read _ _ _, v => v
  | .write _ _, v => v

namespace Request

/-- The question with another store to read or to write. -/
def relocate (id : String) : Request → Request
  | .call c limit => .call (c.relocate id) limit
  | .publish snapshot => .publish snapshot

/-- What answers a relocated question answers the question itself. -/
def answerBack (id : String) : (q : Request) → (q.relocate id).Answer → q.Answer
  | .call c _, v => c.verdictBack id v
  | .publish _, a => a

end Request

namespace Script

variable {α β : Type}

/-- The script with another store to read and to write, and its results changed. -/
def relocate (id : String) {α β : Type} (g : α → β) :
    Script Request Request.Answer α → Script Request Request.Answer β
  | done a => done (g a)
  | ask q next => ask (q.relocate id) fun a => (next (q.answerBack id a)).relocate id g
  | loop s q round leave =>
    loop s (fun s => (q s).relocate id)
      (fun s a => (round s ((q s).answerBack id a)).relocate id fun r => r)
      fun b => (leave b).relocate id g

/-- A script in two parts is moved to another store part by part. -/
theorem relocate_bind (id : String) (p : Script Request Request.Answer α)
    (f : α → Script Request Request.Answer β) {γ : Type} (g : β → γ) :
    (p.bind f).relocate id g = (p.relocate id fun a => a).bind fun a => (f a).relocate id g := by
  induction p with
  | done a => rfl
  | ask q next ih =>
    simp only [bind, relocate]
    congr 1
    funext a
    exact ih _ f
  | loop s q round leave _ ih =>
    simp only [bind, relocate]
    congr 1
    funext b
    exact ih b f

/-- A relocated script asks the relocated question, and goes on relocated. -/
theorem head_relocate (id : String) (p : Script Request Request.Answer α) (g : α → β) :
    (p.relocate id g).head = match p.head with
      | .done a => .done (g a)
      | .ask q next => .ask (q.relocate id) fun a => (next (q.answerBack id a)).relocate id g := by
  cases p with
  | done a => rfl
  | ask q next => rfl
  | loop s q round leave =>
    simp only [relocate, head]
    congr 1
    funext a
    rw [relocate_bind]
    congr 1
    funext r
    cases r <;> rfl

end Script

namespace Pass

variable {α β γ σ : Type} {settings : PassSettings} {snapshot : Snapshot} {tenant : String}

/-- So is a pass, whose errors are the same in every store. -/
theorem relocate_andThen (id : String) (p : Pass α) (f : α → Pass β)
    {g : Except PassError β → Except PassError γ} (hg : ∀ e, g (.error e) = .error e) :
    (p.andThen f).relocate id g =
      andThen (p.relocate id fun r => r) fun a => (f a).relocate id g := by
  rw [andThen, Script.relocate_bind]
  congr 1
  funext r
  cases r with
  | ok a => rfl
  | error e => exact congrArg of (hg e)

/-- Reading pages is moved page by page. -/
theorem relocate_pagesFrom (id : String) {request : Option String → Request}
    {absorb : σ → (token : Option String) → (request token).Answer →
      Except PassError (σ × Option String)} (acc : σ) (token : Option String) :
    (pagesFrom request absorb acc token).relocate id (fun r => r) =
      pagesFrom (fun token => (request token).relocate id)
        (fun acc token a => absorb acc token ((request token).answerBack id a)) acc token := by
  simp only [pagesFrom, Script.iterate, Script.relocate]
  congr 1
  funext s a
  cases absorb s.1 s.2 ((request s.2).answerBack id a) with
  | error e => rfl
  | ok taken =>
    obtain ⟨acc', next⟩ := taken
    cases next <;> rfl

/-- The desired tuples do not depend on the store. -/
theorem relocate_desiredOfKinds (id : String) (kinds : List ResourceKind) (desired : TupleSet) :
    (desiredOfKinds settings tenant snapshot kinds desired).relocate id (fun r => r) =
      desiredOfKinds settings tenant snapshot kinds desired := by
  induction kinds generalizing desired with
  | nil => rfl
  | cons kind kinds ih =>
    rw [desiredOfKinds, relocate_andThen id _ _ fun _ => rfl, desiredOfKind_eq, relocate_pagesFrom]
    simp only [ih]
    rfl

/-- The batches go to the other store. -/
theorem relocate_writeBatches (id id' : String) (limit total : Nat) (batches : List Batch)
    (failed : Nat) :
    (writeBatches tenant id limit total batches failed).relocate id' (fun r => r) =
      writeBatches tenant id' limit total batches failed := by
  induction batches generalizing failed with
  | nil => rfl
  | cons batch rest ih =>
    simp only [writeBatches, Script.relocate]
    congr 1
    funext v
    cases v with
    | answered r =>
      cases r with
      | ok _ => exact ih failed
      | error e => exact ih (failed + 1)
    | timedOut => exact ih (failed + 1)
    | cancelled => rfl

/-- The rest of a tenant's pass, after its store has been opened. -/
def afterOpening (settings : PassSettings) (snapshot : Snapshot) (tenant id : String) :
    Pass TenantReport :=
  (desiredTuples settings tenant snapshot).andThen fun desired =>
  (actualTuples settings id).andThen fun actual =>
  carryOut settings tenant { store := id, desired, actual }

/-- The stored tuples are read from the other store. -/
theorem relocate_actualTuples (id id' : String) :
    (actualTuples settings id).relocate id' (fun r => r) = actualTuples settings id' := by
  rw [actualTuples_eq, relocate_pagesFrom]
  rfl

/-- The report of a pass on another store. -/
def reportAt (id : String) : Except PassError TenantReport → Except PassError TenantReport
  | .ok r => .ok { r with store := id }
  | .error e => .error e

/-- What was found is carried out there. -/
theorem relocate_carryOut (id : String) (found : Findings) :
    (carryOut settings tenant found).relocate id (reportAt id) =
      carryOut settings tenant { found with store := id } := by
  rw [carryOut, relocate_andThen id _ _ fun _ => rfl, carryOut]
  congr 1
  split
  · rfl
  · exact relocate_writeBatches _ _ _ _ _ _

/-- The rest of the pass does the same in another store, and reports that store. -/
theorem relocate_afterOpening (id id' : String) :
    (afterOpening settings snapshot tenant id).relocate id' (reportAt id') =
      afterOpening settings snapshot tenant id' := by
  have hafter : ∀ desired, ((actualTuples settings id).andThen fun actual =>
      carryOut settings tenant { store := id, desired, actual }).relocate id' (reportAt id') =
      (actualTuples settings id').andThen fun actual =>
        carryOut settings tenant { store := id', desired, actual } := by
    intro desired
    rw [relocate_andThen id' _ _ fun _ => rfl, relocate_actualTuples]
    simp only [relocate_carryOut]
  rw [afterOpening, relocate_andThen id' _ _ fun _ => rfl, desiredTuples, relocate_desiredOfKinds]
  simp only [hafter]
  rfl

/-- A question about the resources or about one store. -/
def Concerns (id : String) : Request → Prop
  | .call (.list _ _ _ _) _ => True
  | .call (.read other _ _) _ => other = id
  | .call (.write other _) _ => other = id
  | _ => False

/-- The rest of a tenant's pass asks about the opened store only. -/
theorem asks_afterOpening (id : String) :
    (afterOpening settings snapshot tenant id).Asks (Concerns id) := by
  have hreads : ∀ token, Concerns id (tuplesRequest settings id token) := fun _ => rfl
  refine asks_andThen (asks_desiredOfKinds _ _ (fun _ _ => trivial) _) fun desired => ?_
  rw [actualTuples_eq]
  refine asks_andThen (asks_pagesFrom hreads _ _) fun actual => ?_
  refine (asks_carryOut _).mono ?_
  rintro q ⟨-, batch, -, rfl⟩
  rfl

end Pass

end PolicySync
