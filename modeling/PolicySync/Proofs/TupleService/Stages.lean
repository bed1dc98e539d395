import PolicySync.Proofs.TupleService.Stores

/-!
# Stages of a call for a store

Against a service that lists every store so far and carries out every request (`Service.Keeps`), a call
for the store of a tenant goes through a few stages. `Client.Moves` says what its questions change, and
`exists_moves` that they change nothing else, whatever other calls have done in between.

What follows is read off `Client.Moves`, so it holds of a move whichever call makes it: the service has
the old stores and those that requests have created (`Grown`), a call that is to create one has just
found none (`Client.Moves.none_of_creating`), and what a call comes by is listed (`Stored`).
-/

namespace PolicySync.TupleService

variable {S : Type}

/-- The service lists every store so far, on one page, and creates those that it is asked to create,
under ids of their own. -/
structure Service.Keeps (v : Service S) (c : Client) (created : S → List Store) : Prop where
  lists : ∀ s, received decodeStores (v.exchange (c.pageRequest none) s).1 =
      .ok { items := created s } ∧
    created (v.exchange (c.pageRequest none) s).2 = created s
  creates : ∀ s name, ∃ id, id ∉ (created s).map (·.id) ∧
    received Store.decode (v.exchange (c.createRequest name) s).1 = .ok ⟨id, name⟩ ∧
    created (v.exchange (c.createRequest name) s).2 = created s ++ [⟨id, name⟩]

/-! ## The stages of a call -/

/-- How far a call has come. -/
inductive Stage where
  | asking
  | listing
  | creating
  | keeping (id : String)
  | ended (id : String)
  deriving DecidableEq

namespace Client

/-- A call goes on by remembering the store, if there is one. -/
def keep (tenant : String) : Except ServiceError String → Procedure String
  | .error e => .done (.error e)
  | .ok store => .ask (.remember tenant store) fun _ => .done (.ok store)

/-- What is left of a call. -/
def rest (c : Client) (tenant : String) : Stage → Procedure String
  | .asking => c.openStore tenant
  | .listing => (c.provideStore (c.storeName tenant)).bind (keep tenant)
  | .creating => ((c.createStore (c.storeName tenant)).bind fun r => .done (r.map (·.id))).bind
      (keep tenant)
  | .keeping id => .ask (.remember tenant id) fun _ => .done (.ok id)
  | .ended id => .done (.ok id)

/-- What one question changes: the stage of a call and the session. -/
inductive Moves (c : Client) (tenant : String) (created : S → List Store) :
    Stage → Session S → Stage → Session S → Prop where
  | known {w : Session S} {id : String} (h : w.stores.get? tenant = some id) :
      Moves c tenant created .asking w (.ended id) w
  | unknown {w : Session S} (h : w.stores.get? tenant = none) :
      Moves c tenant created .asking w .listing w
  | found {w : Session S} {s : S} {o : Http.Outcome} {store : Store}
      (hsame : created s = created w.service)
      (h : (created w.service).find? (·.name = c.storeName tenant) = some store) :
      Moves c tenant created .listing w (.keeping store.id)
        (w.extend s [⟨c.pageRequest none, o⟩])
  | missing {w : Session S} {s : S} {o : Http.Outcome} (hsame : created s = created w.service)
      (h : (created w.service).find? (·.name = c.storeName tenant) = none) :
      Moves c tenant created .listing w .creating (w.extend s [⟨c.pageRequest none, o⟩])
  | created {w : Session S} {s : S} {o : Http.Outcome} {id : String}
      (hnew : created s = created w.service ++ [⟨id, c.storeName tenant⟩]) :
      Moves c tenant created .creating w (.keeping id)
        (w.extend s [⟨c.createRequest (c.storeName tenant), o⟩])
  | kept {w : Session S} {id : String} :
      Moves c tenant created (.keeping id) w (.ended id)
        { w with stores := w.stores.insert tenant id }

variable {c : Client} {v : Service S} {created : S → List Store} {tenant : String}

/-- Answering the question of a call takes it to its next stage. -/
theorem exists_moves (hkeeps : v.Keeps c created) (w : Session S) {st : Stage} {q : Ask}
    {next : q.Answer → Procedure String} (hq : (c.rest tenant st).head = .ask q next) :
    ∃ st', next (v.answer q w).1 = c.rest tenant st' ∧
      c.Moves tenant created st w st' (v.answer q w).2 := by
  cases st with
  | asking =>
    cases hq
    cases hknown : w.stores.get? tenant with
    | some id => exact ⟨.ended id, by simp only [Service.answer, hknown]; rfl, .known hknown⟩
    | none => exact ⟨.listing, by simp only [Service.answer, hknown]; rfl, .unknown hknown⟩
  | listing =>
    obtain ⟨hlist, hsame⟩ := hkeeps.lists w.service
    have hhead : (c.rest tenant .listing).head = .ask (.send (c.pageRequest none)) _ :=
      Script.head_bind_ask (Script.head_bind_ask
        (repeats_findStoreFrom c (c.storeName tenant) none 0) _) _
    rw [hhead] at hq
    cases hq
    -- The service keeps its word, so there is no second attempt.
    have hfinal : ¬ (Http.passes ServiceError.isPassing (received decodeStores
        (v.exchange (c.pageRequest none) w.service).1) = true ∧
          0 + 1 < c.retry.maxAttempts) := by
      rw [hlist]
      simp [Http.passes]
    simp only [Service.answer_send, repetition]
    rw [Http.afterAttempt_of_final hfinal, hlist]
    cases hfind : (created w.service).find? (·.name = c.storeName tenant) with
    | some store =>
      refine ⟨.keeping store.id, ?_, .found hsame hfind⟩
      simp only [Script.bind, afterAttempts, hfind]
      rfl
    | none =>
      refine ⟨.creating, ?_, .missing hsame hfind⟩
      simp only [Script.bind, afterAttempts, hfind]
      rfl
  | creating =>
    cases hq
    obtain ⟨id, -, hcreate, hnew⟩ := hkeeps.creates w.service (c.storeName tenant)
    refine ⟨.keeping id, ?_, .created hnew⟩
    simp only [Service.answer_send, postRequest_stores]
    rw [hcreate]
    rfl
  | keeping id =>
    cases hq
    exact ⟨.ended id, rfl, .kept⟩
  | ended id => cases hq

/-- A call has a question, or it has ended with a store. -/
theorem head_rest (c : Client) (tenant : String) (st : Stage) :
    (∃ q next, (c.rest tenant st).head = .ask q next) ∨
      ∃ id, st = .ended id ∧ (c.rest tenant st).head = .done (.ok id) := by
  cases st with
  | asking => exact .inl ⟨_, _, rfl⟩
  | listing => exact .inl ⟨_, _, rfl⟩
  | creating => exact .inl ⟨_, _, rfl⟩
  | keeping id => exact .inl ⟨_, _, rfl⟩
  | ended id => exact .inr ⟨id, rfl, rfl⟩

end Client

/-! ## What is counted -/

/-- How many of the exchanges are requests to create a store. -/
def creates (es : List Exchange) : Nat := es.countP (·.request.method = .post)

/-- How many exchanges come before the first request to create a store. -/
def early (es : List Exchange) : Nat := (es.takeWhile (·.request.method = .get)).length

section Counts

variable (es : List Exchange) (c : Client) (o : Http.Outcome)

/-- A page that is asked for creates nothing. -/
theorem creates_append_list : creates (es ++ [⟨c.pageRequest none, o⟩]) = creates es := by
  simp [creates, Client.pageRequest]

/-- A request for a new store is one more. -/
theorem creates_append_create (name : String) :
    creates (es ++ [⟨c.createRequest name, o⟩]) = creates es + 1 := by
  simp [creates, Client.createRequest]

/-- What was early stays so. -/
theorem early_le_append (es' : List Exchange) : early es ≤ early (es ++ es') := by
  rw [early, early, List.takeWhile_append]
  split
  · next hall =>
    rw [List.length_append, hall]
    exact Nat.le_add_right _ _
  · exact Nat.le_refl _

/-- Before any request to create a store every look-up is an early one. -/
theorem early_append_list (h : creates es = 0) :
    early (es ++ [⟨c.pageRequest none, o⟩]) = early es + 1 := by
  have hall : ∀ e ∈ es, decide (e.request.method = .get) = true := by
    intro e he
    have hpost := List.countP_eq_zero.1 h e he
    cases hmethod : e.request.method with
    | get => rfl
    | post => simp [hmethod] at hpost
  have hself : es.takeWhile (·.request.method = .get) = es := by
    simpa using @List.takeWhile_append_of_pos _ _ es [] hall
  rw [early, early, List.takeWhile_append_of_pos hall, hself, List.length_append]
  simp [Client.pageRequest]

end Counts

/-! ## What a move keeps -/

/-- A store of the tenant's name is listed under the id, and it is the first such store unless two
stores have been created. -/
def Stored (c : Client) (tenant : String) (created : S → List Store) (w : Session S) (id : String) :
    Prop :=
  (∃ store ∈ created w.service, store.name = c.storeName tenant ∧ store.id = id) ∧
    (creates w.exchanges ≤ 1 → ∃ store,
      (created w.service).find? (·.name = c.storeName tenant) = some store ∧ store.id = id)

/-- The first store of the name is stored. -/
theorem stored_of_find {c : Client} {tenant : String} {created : S → List Store} {w : Session S}
    {store : Store}
    (h : (created w.service).find? (·.name = c.storeName tenant) = some store) :
    Stored c tenant created w store.id := by
  have hname : store.name = c.storeName tenant := by simpa using List.find?_some h
  exact ⟨⟨store, List.mem_of_find?_eq_some h, hname, rfl⟩, fun _ => ⟨store, h, rfl⟩⟩

/-- The stores that are listed are the old ones and those that requests have created. -/
def Grown (c : Client) (tenant : String) (created : S → List Store) (old : List Store)
    (w : Session S) : Prop :=
  ∃ new, created w.service = old ++ new ∧ new.length = creates w.exchanges ∧
    ∀ s ∈ new, s.name = c.storeName tenant

namespace Stage

/-- The call has come by the store of this id. -/
def Brings (id : String) : Stage → Prop
  | keeping id' | ended id' => id' = id
  | asking | listing | creating => False

/-- The most questions that a call still has. -/
def left : Stage → Nat
  | asking => 4
  | listing => 3
  | creating => 2
  | keeping _ => 1
  | ended _ => 0

end Stage

namespace Client.Moves

variable {c : Client} {tenant : String} {created : S → List Store} {old : List Store}
  {st st' : Stage} {w w' : Session S}

/-- Every move leaves less to do. -/
theorem left_lt (h : c.Moves tenant created st w st' w') : st'.left < st.left := by
  cases h <;> simp [Stage.left]

/-- A move creates one store, or it changes nothing at the service. -/
theorem effect (h : c.Moves tenant created st w st' w') :
    (created w'.service = created w.service ∧ creates w'.exchanges = creates w.exchanges) ∨
    (st = .creating ∧ ∃ id, st' = .keeping id ∧
      created w'.service = created w.service ++ [⟨id, c.storeName tenant⟩] ∧
      creates w'.exchanges = creates w.exchanges + 1) := by
  cases h with
  | known _ => exact .inl ⟨rfl, rfl⟩
  | unknown _ => exact .inl ⟨rfl, rfl⟩
  | found hsame _ => exact .inl ⟨hsame, creates_append_list _ _ _⟩
  | missing hsame _ => exact .inl ⟨hsame, creates_append_list _ _ _⟩
  | created hnew => exact .inr ⟨rfl, _, rfl, hnew, creates_append_create _ _ _ _⟩
  | kept => exact .inl ⟨rfl, rfl⟩

/-- What was stored before stays stored. -/
theorem grown (h : c.Moves tenant created st w st' w') (hold : Grown c tenant created old w) :
    Grown c tenant created old w' := by
  obtain ⟨new, hnew, hlength, hname⟩ := hold
  rcases h.effect with ⟨hsame, hcreates⟩ | ⟨-, id, -, hadded, hcreates⟩
  · exact ⟨new, hsame.trans hnew, hlength.trans hcreates.symm, hname⟩
  · refine ⟨new ++ [⟨id, c.storeName tenant⟩], ?_, ?_, ?_⟩
    · rw [hadded, hnew, List.append_assoc]
    · rw [List.length_append, hlength, hcreates]
      rfl
    · simpa [or_imp, forall_and] using hname

/-- What is stored stays so. -/
theorem stored (h : c.Moves tenant created st w st' w') {id : String}
    (hid : Stored c tenant created w id) : Stored c tenant created w' id := by
  obtain ⟨⟨store, hmem, hstore⟩, hfirst⟩ := hid
  rcases h.effect with ⟨hsame, hcreates⟩ | ⟨-, _, -, hadded, hcreates⟩
  · rw [Stored, hsame, hcreates]
    exact ⟨⟨store, hmem, hstore⟩, hfirst⟩
  · rw [Stored, hadded, hcreates]
    refine ⟨⟨store, List.mem_append_left _ hmem, hstore⟩, fun hone => ?_⟩
    obtain ⟨first, hfind, hid⟩ := hfirst (by omega)
    exact ⟨first, by rw [List.find?_append, hfind]; rfl, hid⟩

/-- A call comes to create a store only if none of the name is listed. -/
theorem none_of_creating (h : c.Moves tenant created st w st' w') (hst' : st' = .creating) :
    ∀ s ∈ created w.service, s.name ≠ c.storeName tenant := by
  cases h with
  | missing _ h => simpa using h
  | known _ => cases hst'
  | unknown _ => cases hst'
  | found _ _ => cases hst'
  | created _ => cases hst'
  | kept => cases hst'

/-- A call that comes to create a store has been one more early look-up, and one that has created it is
no longer to do so. -/
theorem bound (h : c.Moves tenant created st w st' w') (hold : Grown c tenant created old w) :
    creates w'.exchanges + (if st' = .creating then 1 else 0) + early w.exchanges ≤
      creates w.exchanges + (if st = .creating then 1 else 0) + early w'.exchanges := by
  have hnone := h.none_of_creating
  cases h with
  | known _ => simp
  | unknown _ => simp
  | @found _ s o store _ _ =>
    have hearly := early_le_append w.exchanges [⟨c.pageRequest none, o⟩]
    simpa [creates_append_list] using hearly
  | missing _ _ =>
    -- None of the name is listed, so none has been created.
    obtain ⟨new, hnew, hlength, hname⟩ := hold
    have hzero : creates w.exchanges = 0 := by
      rw [← hlength, List.length_eq_zero_iff, List.eq_nil_iff_forall_not_mem]
      exact fun s hs => hnone rfl s (hnew ▸ List.mem_append_right _ hs) (hname s hs)
    rw [Session.extend_exchanges, creates_append_list, early_append_list _ _ _ hzero]
    simp only [if_true, reduceCtorEq, if_false]
    omega
  | @created _ s o id _ =>
    have hearly := early_le_append w.exchanges [⟨c.createRequest (c.storeName tenant), o⟩]
    simpa [creates_append_create] using hearly
  | kept => simp

/-- What a call has come by is stored, and so is what is remembered. -/
theorem stored_of_brings (h : c.Moves tenant created st w st' w')
    (hold : Grown c tenant created old w)
    (hneeded : st = .creating → ∀ s ∈ old, s.name ≠ c.storeName tenant)
    (hst : ∀ id, st.Brings id → Stored c tenant created w id)
    (hknown : ∀ id, w.stores.get? tenant = some id → Stored c tenant created w id) :
    (∀ id, st'.Brings id → Stored c tenant created w' id) ∧
      ∀ id, w'.stores.get? tenant = some id → Stored c tenant created w' id := by
  have hkeeps : ∀ {id}, Stored c tenant created w id → Stored c tenant created w' id := h.stored
  cases h with
  | known h =>
    refine ⟨fun id hid => ?_, hknown⟩
    obtain rfl : _ = id := hid
    exact hknown _ h
  | unknown h => exact ⟨fun id hid => hid.elim, hknown⟩
  | @found _ s o store hsame h =>
    refine ⟨fun id hid => ?_, fun id hid => hkeeps (hknown id hid)⟩
    obtain rfl : store.id = id := hid
    exact hkeeps (stored_of_find h)
  | missing _ h => exact ⟨fun id hid => hid.elim, fun id hid => hkeeps (hknown id hid)⟩
  | @created _ s o new hadded =>
    refine ⟨fun id hid => ?_, fun id hid => hkeeps (hknown id hid)⟩
    obtain rfl : new = id := hid
    refine ⟨⟨⟨new, c.storeName tenant⟩, ?_, rfl, rfl⟩, fun hone => ?_⟩
    · rw [Session.extend_service, hadded]
      exact List.mem_append_right _ List.mem_cons_self
    · -- It is the only new store, and no old one has the name.
      obtain ⟨others, hothers, hlength, -⟩ := hold
      rw [Session.extend_exchanges, creates_append_create] at hone
      obtain rfl : others = [] := List.length_eq_zero_iff.1 (by omega)
      refine ⟨⟨new, c.storeName tenant⟩, ?_, rfl⟩
      rw [Session.extend_service, hadded, hothers, List.append_nil, List.find?_append]
      have hnone : old.find? (·.name = c.storeName tenant) = none := by simpa using hneeded rfl
      rw [hnone]
      simp
  | @kept _ id =>
    have hid := hst id rfl
    refine ⟨fun id' hid' => ?_, fun id' hid' => ?_⟩
    · obtain rfl : id = id' := hid'
      exact hkeeps hid
    · rw [SortedMap.get?_insert_self] at hid'
      cases hid'
      exact hkeeps hid

end Client.Moves

end PolicySync.TupleService
