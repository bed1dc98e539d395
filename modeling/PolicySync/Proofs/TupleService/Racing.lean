import PolicySync.Proofs.Json.Decode
import PolicySync.Proofs.Memory.Store
import PolicySync.Proofs.TupleService.Stages

/-!
# Calls for the store of a tenant beside each other

A `Race` is any number of calls of one client for the store of one tenant, which share what the client
remembers; a step answers the question of any one of them. Nothing keeps a call from looking for a
store while another one is about to create it. So two calls can create a store each, and the tenant
then has two (`race_splits`).

A call that creates a store has looked for it before any was created, though. So there are at most as
many new stores as early look-ups, and all calls come by the same store unless there are two new ones
(`race_settles`).
-/

namespace PolicySync.TupleService

variable {S : Type}

/-! ## Calls beside each other -/

/-- Calls for the store of one tenant and the session that they share. -/
structure Race (S : Type) where
  calls : List (Procedure String)
  session : Session S

namespace Race

/-- Some calls before their first step. -/
def start (c : Client) (tenant : String) (n : Nat) (w : Session S) : Race S where
  calls := List.replicate n (c.openStore tenant)
  session := w

/-- One of the calls has its question answered. -/
inductive Step (v : Service S) : Race S → Race S → Prop where
  | answer {r : Race S} {i : Nat} {p : Procedure String} {q : Ask}
      {next : q.Answer → Procedure String} (hp : r.calls[i]? = some p)
      (hq : p.head = .ask q next) :
      Step v r { calls := r.calls.set i (next (v.answer q r.session).1),
                 session := (v.answer q r.session).2 }

/-- The calls are in stages that the stores and the exchanges bear out. -/
structure Inv (c : Client) (tenant : String) (created : S → List Store) (old : List Store)
    (stages : List Stage) (r : Race S) : Prop where
  calls : r.calls = stages.map (c.rest tenant)
  /-- Who has created a store or is about to has been an early look-up. -/
  bound : creates r.session.exchanges + stages.count .creating ≤ early r.session.exchanges
  grown : Grown c tenant created old r.session
  /-- A store is created only if there was none. -/
  needed : .creating ∈ stages ∨ 0 < creates r.session.exchanges →
    ∀ s ∈ old, s.name ≠ c.storeName tenant
  brought : ∀ st ∈ stages, ∀ id, st.Brings id → Stored c tenant created r.session id
  known : ∀ id, r.session.stores.get? tenant = some id → Stored c tenant created r.session id

variable {c : Client} {v : Service S} {tenant : String} {created : S → List Store}
  {old : List Store} {stages : List Stage} {r r' : Race S}

/-- The invariant holds at the start. -/
theorem inv_start {n : Nat} {w : Session S} (hempty : w.exchanges = [])
    (hknown : ∀ id, w.stores.get? tenant = some id → ∃ store,
      (created w.service).find? (·.name = c.storeName tenant) = some store ∧ store.id = id) :
    Inv c tenant created (created w.service) (List.replicate n .asking) (start c tenant n w) where
  calls := by
    rw [List.map_replicate]
    rfl
  bound := by simp [start, hempty, creates, List.count_replicate]
  grown := ⟨[], by simp [start], by simp [start, hempty, creates], by simp⟩
  needed := by simp [start, hempty, creates]
  brought := by
    intro st hst id hid
    rw [List.eq_of_mem_replicate hst] at hid
    exact hid.elim
  known := by
    intro id hid
    obtain ⟨store, hfind, rfl⟩ := hknown id hid
    exact stored_of_find hfind

/-- One stage less and another one more. -/
private theorem count_set_add {i : Nat} {st : Stage} (hi : stages[i]? = some st) (st' a : Stage) :
    (stages.set i st').count a + (if st = a then 1 else 0) =
      stages.count a + (if st' = a then 1 else 0) := by
  obtain ⟨hlt, hst⟩ := List.getElem?_eq_some_iff.1 hi
  have hpos : st = a → 0 < stages.count a :=
    fun h => List.count_pos_iff.2 (h ▸ List.mem_of_getElem? hi)
  rw [List.count_set hlt, hst]
  simp only [beq_iff_eq]
  split_ifs with h
  · have hone := hpos h
    omega
  · have hone := hpos h
    omega
  · rfl
  · rfl

/-- A call that moves keeps the invariant. -/
theorem Inv.move (h : Inv c tenant created old stages r) {i : Nat} {st st' : Stage}
    (hi : stages[i]? = some st) {w : Session S} (hmoves : c.Moves tenant created st r.session st' w) :
    Inv c tenant created old (stages.set i st')
      { calls := r.calls.set i (c.rest tenant st'), session := w } := by
  have hmem : st ∈ stages := List.mem_of_getElem? hi
  have hneeded : st = .creating → ∀ s ∈ old, s.name ≠ c.storeName tenant :=
    fun hst => h.needed (.inl (hst ▸ hmem))
  obtain ⟨hbrought, hknown⟩ := hmoves.stored_of_brings h.grown hneeded (h.brought st hmem) h.known
  refine ⟨?_, ?_, hmoves.grown h.grown, ?_, ?_, hknown⟩
  · rw [h.calls, List.map_set]
  -- One call moves, so one stage of the list is exchanged.
  · have hcount := count_set_add hi st' .creating
    have hbound := hmoves.bound h.grown
    have hold := h.bound
    simp only
    omega
  · -- A call that is to create a store has been so before, or it has just found none.
    have hnew : st' = .creating → ∀ s ∈ old, s.name ≠ c.storeName tenant := by
      intro hst' s hs
      obtain ⟨new, hgrown, -⟩ := h.grown
      exact hmoves.none_of_creating hst' s (hgrown ▸ List.mem_append_left _ hs)
    rintro (hcreating | hpos)
    · rcases List.mem_or_eq_of_mem_set hcreating with hcreating | hst'
      · exact h.needed (.inl hcreating)
      · exact hnew hst'.symm
    · rcases hmoves.effect with ⟨-, hsame⟩ | ⟨hst, -⟩
      · exact h.needed (.inr (hsame ▸ hpos))
      · exact hneeded hst
  · intro st₁ hst₁ id hid
    rcases List.mem_or_eq_of_mem_set hst₁ with hst₁ | rfl
    · exact hmoves.stored (h.brought st₁ hst₁ id hid)
    · exact hbrought id hid

/-- One step keeps the invariant. -/
theorem Inv.step (h : Inv c tenant created old stages r) (hkeeps : v.Keeps c created)
    (hstep : Step v r r') : ∃ stages', Inv c tenant created old stages' r' := by
  obtain @⟨i, p, q, next, hp, hq⟩ := hstep
  rw [h.calls, List.getElem?_map, Option.map_eq_some_iff] at hp
  obtain ⟨st, hi, rfl⟩ := hp
  obtain ⟨st', hnext, hmoves⟩ := Client.exists_moves hkeeps r.session hq
  rw [hnext]
  exact ⟨stages.set i st', h.move hi hmoves⟩

/-- Every run keeps the invariant. -/
theorem Inv.run (h : Inv c tenant created old stages r) (hkeeps : v.Keeps c created)
    (hrun : Relation.ReflTransGen (Step v) r r') :
    ∃ stages', Inv c tenant created old stages' r' := by
  induction hrun with
  | refl => exact ⟨stages, h⟩
  | tail _ hstep ih =>
    obtain ⟨stages', h'⟩ := ih
    exact h'.step hkeeps hstep

/-- Further steps bring all calls to their ends. The induction is on the questions that are left. -/
theorem Inv.exists_ended (h : Inv c tenant created old stages r) (hkeeps : v.Keeps c created) :
    ∃ stages' r', Relation.ReflTransGen (Step v) r r' ∧ Inv c tenant created old stages' r' ∧
      ∀ st ∈ stages', ∃ id, st = .ended id := by
  induction hn : (stages.map Stage.left).sum using Nat.strongRecOn generalizing stages r with
  | ind n ih =>
    -- By induction on how much all calls together have left to do: whoever is not over can move.
    by_cases hall : ∀ st ∈ stages, ∃ id, st = .ended id
    · exact ⟨stages, r, .refl, h, hall⟩
    · simp only [not_forall] at hall
      obtain ⟨st, hst, hopen⟩ := hall
      obtain ⟨before, after, rfl⟩ := List.append_of_mem hst
      have hi : (before ++ st :: after)[before.length]? = some st := by simp
      obtain ⟨q, next, hq⟩ : ∃ q next, (c.rest tenant st).head = .ask q next :=
        (Client.head_rest c tenant st).resolve_right fun ⟨id, hst, _⟩ => hopen ⟨id, hst⟩
      obtain ⟨st', hnext, hmoves⟩ := Client.exists_moves hkeeps r.session hq
      have hcall : r.calls[before.length]? = some (c.rest tenant st) := by
        rw [h.calls, List.getElem?_map, hi]
        rfl
      have hset : (before ++ st :: after).set before.length st' = before ++ st' :: after := by simp
      have hfewer : ((before ++ st' :: after).map Stage.left).sum < n := by
        have hlt := hmoves.left_lt
        simp only [← hn, List.map_append, List.map_cons, List.sum_append, List.sum_cons]
        omega
      obtain ⟨stages', r', hrun, h'⟩ := ih _ hfewer (hset ▸ h.move hi hmoves) rfl
      exact ⟨stages', r', .head (hnext ▸ .answer hcall hq) hrun, h'⟩

/-- The call at a position has its question answered. -/
def turn (v : Service S) (r : Race S) (i : Nat) : Race S :=
  match r.calls[i]? with
  | none => r
  | some p =>
    match p.head with
    | .done _ => r
    | .ask q next =>
      { calls := r.calls.set i (next (v.answer q r.session).1), session := (v.answer q r.session).2 }

/-- Turns, one after the other, are a run. -/
theorem run_turns (v : Service S) (r : Race S) (turns : List Nat) :
    Relation.ReflTransGen (Step v) r (turns.foldl (turn v) r) := by
  induction turns generalizing r with
  | nil => exact .refl
  | cons i turns ih =>
    refine .trans ?_ (ih (r.turn v i))
    unfold turn
    split
    · exact .refl
    · next p hp =>
      split
      · exact .refl
      · next q next hq => exact .single (.answer hp hq)

end Race

/-! ## A service that keeps names -/

/-- The stores of some names, each under the number at which it was created. -/
def numbered (names : List String) : List Store :=
  names.mapIdx fun i name => ⟨Memory.Store.storeName (i + 1), name⟩

/-- A store as JSON. -/
def Store.encode (s : Store) : Json.Value := .object [("id", .str s.id), ("name", .str s.name)]

/-- Stores are read back from what a service answers. -/
theorem Store.decode_encode (s : Store) : Store.decode s.encode = .ok s := rfl

/-- The name of the store that the body of a request asks for. -/
def askedName (request : Http.Request) : String :=
  match request.body.bind (·.field? "name") with
  | some (.str name) => name
  | _ => ""

/-- A service that keeps the names of its stores in the order in which they were created. -/
def registry : Service (List String) where
  exchange request names :=
    match request.method with
    | .get =>
      let stores := (numbered names).map Store.encode
      (.reply { status := 200, json := some (.object [("stores", .list stores)]) }, names)
    | .post =>
      let store : Store := ⟨Memory.Store.storeName (names.length + 1), askedName request⟩
      (.reply { status := 201, json := some store.encode }, names ++ [askedName request])

/-- The registry keeps every store that it was asked to create. -/
theorem keeps_registry (c : Client) : registry.Keeps c numbered where
  lists names := by
    have hlist : Json.listOf Store.decode (.list ((numbered names).map Store.encode)) =
        .ok (numbered names) := Json.listOf_map Store.decode_encode _
    have hpage : decodeStores (.object [("stores", .list ((numbered names).map Store.encode))]) =
        .ok { items := numbered names } := by
      change (do
        let items ← Json.listOf Store.decode (.list ((numbered names).map Store.encode))
        return ({ items, next := none } : Page Store)) = _
      rw [hlist]
      rfl
    refine ⟨?_, rfl⟩
    change (decodeStores _).mapError _ = _
    rw [hpage]
    rfl
  creates names name := by
    refine ⟨Memory.Store.storeName (names.length + 1), ?_, rfl, List.mapIdx_concat⟩
    -- The new name is numbered one beyond all that there are.
    intro hmem
    obtain ⟨store, hstore, hid⟩ := List.mem_map.1 hmem
    obtain ⟨i, hi, rfl⟩ := List.mem_mapIdx.1 hstore
    have hsame := Memory.Store.storeName_injective hid
    omega

/-! ## How calls settle -/

variable {c : Client} {v : Service S} {tenant : String} {created : S → List Store}

/-- What has come of calls for the store of a tenant that found these stores at the start. -/
structure Race.Settled (c : Client) (tenant : String) (created : S → List Store) (old : List Store)
    (r : Race S) : Prop where
  /-- Each request to create a store goes with a look-up before the first of them. -/
  bounded : creates r.session.exchanges ≤ early r.session.exchanges
  /-- No store is created if there is one. -/
  needed : 0 < creates r.session.exchanges → ∀ s ∈ old, s.name ≠ c.storeName tenant
  grown : Grown c tenant created old r.session
  /-- A call that has ended has come by a store of the tenant's name. -/
  listed : ∀ p ∈ r.calls, ∀ result, p.head = .done result →
    ∃ store ∈ created r.session.service, store.name = c.storeName tenant ∧ result = .ok store.id
  /-- Unless two stores have been created, all calls have come by the same. -/
  agreed : creates r.session.exchanges ≤ 1 →
    ∃ id, ∀ p ∈ r.calls, ∀ result, p.head = .done result → result = .ok id

/-- In whatever order calls for the store of a tenant take their steps, what comes of them is settled
by how many of them have looked for the store before one is created, and further steps bring all of
them to their ends. -/
theorem race_settles (hkeeps : v.Keeps c created) {n : Nat} {w : Session S}
    (hempty : w.exchanges = [])
    (hknown : ∀ id, w.stores.get? tenant = some id → ∃ store,
      (created w.service).find? (·.name = c.storeName tenant) = some store ∧ store.id = id)
    {r : Race S} (hrun : Relation.ReflTransGen (Race.Step v) (.start c tenant n w) r) :
    r.Settled c tenant created (created w.service) ∧
      ∃ r', Relation.ReflTransGen (Race.Step v) r r' ∧
        ∀ p ∈ r'.calls, ∃ result, p.head = .done result := by
  obtain ⟨stages, h⟩ := (Race.inv_start (n := n) hempty hknown).run hkeeps hrun
  -- A call that is over is at the end of its stages, where what it brings is stored.
  have hended : ∀ p ∈ r.calls, ∀ result, p.head = .done result →
      ∃ id, result = .ok id ∧ Stored c tenant created r.session id := by
    rw [h.calls, List.forall_mem_map]
    intro st hst result hdone
    rcases Client.head_rest c tenant st with ⟨q, next, hask⟩ | ⟨id, rfl, hid⟩
    · rw [hask] at hdone
      cases hdone
    · rw [hid] at hdone
      cases hdone
      exact ⟨id, rfl, h.brought _ hst id rfl⟩
  refine ⟨⟨?_, fun hpos => h.needed (.inr hpos), h.grown, ?_, ?_⟩, ?_⟩
  · exact Nat.le_trans (Nat.le_add_right _ _) h.bound
  · intro p hp result hdone
    obtain ⟨id, rfl, ⟨store, hmem, hname, rfl⟩, -⟩ := hended p hp result hdone
    exact ⟨store, hmem, hname, rfl⟩
  · intro hone
    refine ⟨(((created r.session.service).find? (·.name = c.storeName tenant)).map (·.id)).getD "",
      fun p hp result hdone => ?_⟩
    obtain ⟨id, rfl, -, hfirst⟩ := hended p hp result hdone
    -- With one store created, a look-up by name finds that one.
    obtain ⟨store, hfind, rfl⟩ := hfirst hone
    rw [hfind]
    rfl
  · obtain ⟨stages', r', hrun', h', hall⟩ := h.exists_ended hkeeps
    refine ⟨r', hrun', ?_⟩
    rw [h'.calls, List.forall_mem_map]
    intro st hst
    obtain ⟨id, rfl⟩ := hall st hst
    exact ⟨.ok id, rfl⟩

/-- Two first calls come between each other's requests. One store is created, and both name it. -/
theorem race_settles_early :
    let r := [0, 1, 0, 0, 1, 0, 1].foldl (Race.turn registry)
      (.start { baseUrl := "http://stores" } "a" 2 { service := [] })
    creates r.session.exchanges = 1 ∧
      ∃ id, ∀ p ∈ r.calls, ∀ result, p.head = .done result → result = .ok id := by
  intro r
  have hone : creates r.session.exchanges = 1 := rfl
  have hrun := Race.run_turns registry
    (.start { baseUrl := "http://stores" } "a" 2 { service := [] }) [0, 1, 0, 0, 1, 0, 1]
  obtain ⟨hsettled, -⟩ := race_settles (keeps_registry _) rfl (by simp) hrun
  exact ⟨hone, hsettled.agreed (Nat.le_of_eq hone)⟩

/-- Two calls for the store of a tenant that both look for it before either of them creates it come by
two stores. -/
theorem race_splits : ¬ ∀ (S : Type) (v : Service S) (c : Client) (created : S → List Store)
    (tenant : String) (n : Nat) (s : S) (r : Race S), v.Keeps c created →
    Relation.ReflTransGen (Race.Step v) (.start c tenant n { service := s }) r →
    (∀ p ∈ r.calls, ∃ result, p.head = .done result) →
    creates r.session.exchanges ≤ 1 ∧ ∃ id, ∀ p ∈ r.calls, p.head = .done (.ok id) := by
  intro h
  -- Both calls ask, then both look, then both create, and then both remember.
  obtain ⟨r, hrun, hcalls⟩ : ∃ r, Relation.ReflTransGen (Race.Step registry)
      (.start { baseUrl := "http://stores" } "a" 2 { service := [] }) r ∧
        r.calls = [.done (.ok "store-001"), .done (.ok "store-002")] :=
    ⟨_, Race.run_turns registry _ [0, 1, 0, 1, 0, 1, 0, 1], rfl⟩
  have hended : ∀ p ∈ r.calls, ∃ result, p.head = .done result := by
    rw [hcalls]
    simp [Script.head]
  obtain ⟨-, id, hsame⟩ := h _ registry _ numbered "a" 2 [] r (keeps_registry _) hrun hended
  rw [hcalls] at hsame
  obtain ⟨hfirst, hsecond⟩ : "store-001" = id ∧ "store-002" = id := by
    simpa [Script.head] using hsame
  rw [← hfirst] at hsecond
  exact absurd hsecond (by decide)

end PolicySync.TupleService
