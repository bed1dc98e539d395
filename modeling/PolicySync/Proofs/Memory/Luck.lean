import PolicySync.Proofs.Memory.Answers
import PolicySync.Proofs.Pass.Renaming

/-!
# Answers that depend on the tenant

`Luck` lets calls go wrong, or be answered with something else, in any way that depends on the
tenant and on the calls that its pass has made before, but not on what other tenants do. Two
backends that agree on the resources and on the tuples of a tenant then answer it alike, whatever
its store is called there (`Luck.answer_twins`), and what one tenant asks for leaves the stores of
all others as they are (`Luck.answer_spares`).
-/

namespace PolicySync.Memory

open Pass (Concerns)

/-- What becomes of the calls of each tenant. -/
structure Luck where
  /-- What a pass hears of its next call, and whether the call has its effect, when the backends do
  not simply answer it. This may depend on the tenant and on the calls before, without the names of
  stores. -/
  outcome? : (tenant : String) → (past : List Call) → (c : Call) → Option (Verdict c.Result × Bool)
  /-- The backends alone say what a store is called. -/
  unnamed : ∀ {tenant past other v effective},
    outcome? tenant past (.openStore other) = some (v, effective) → ∀ id, v ≠ .answered (.ok id)

namespace Luck

variable (luck : Luck) (tenant : String)

/-- What the pass of a tenant hears of a call, and whether the call has its effect, when the
backends do not simply answer it. -/
def instead? (past : List Call) (c : Call) : Option (Verdict c.Result × Bool) :=
  (luck.outcome? tenant past (c.relocate "")).map fun o => (c.verdictBack "" o.1, o.2)

/-- A question of a tenant's pass that has made some calls before is answered. -/
def answer : (q : Request) → Backends × List Call → q.Answer × (Backends × List Call)
  | .publish _, w => ((), w)
  | .call c _, (b, past) =>
    match luck.instead? tenant past c with
    | none => (.answered (b.call c).1, (b.call c).2, past ++ [c.relocate ""])
    | some (v, effective) => (v, if effective then (b.call c).2 else b, past ++ [c.relocate ""])

/-- What is heard instead does not depend on what the store is called. -/
theorem instead?_relocate (past : List Call) (c : Call) (id : String) :
    luck.instead? tenant past c = (luck.instead? tenant past (c.relocate id)).map fun o =>
      (c.verdictBack id o.1, o.2) := by
  cases c <;> simp only [instead?, Call.relocate, Option.map_map] <;> rfl

end Luck

namespace Backends

variable {b b' b₁ b₁' : Backends} {tenant other id id' : String}

/-- What matters to a tenant has not changed. -/
structure Spares (tenant : String) (b b₁ : Backends) : Prop where
  shelves : b₁.lister.shelves = b.lister.shelves
  store : b₁.store.WellFormed
  failing : b₁.store.failing = b.store.failing
  ids : ∀ id, b.store.ids.get? tenant = some id → b₁.store.ids.get? tenant = some id
  tuples : b₁.store.tuplesOf tenant = b.store.tuplesOf tenant

/-- Two backends hold the same for a tenant, and no write call is made to fail there. -/
structure Twins (tenant : String) (b b' : Backends) : Prop where
  shelves : b'.lister.shelves = b.lister.shelves
  store : b.store.WellFormed
  store' : b'.store.WellFormed
  failing : b.store.failing = []
  failing' : b'.store.failing = []
  tuples : b'.store.tuplesOf tenant = b.store.tuplesOf tenant

/-- What changes nothing spares everybody. -/
theorem Spares.refl (hstore : b.store.WellFormed) : Spares tenant b b :=
  ⟨rfl, hstore, rfl, fun _ hid => hid, rfl⟩

/-- Backends are their own twins when no write is due to fail. -/
theorem Twins.refl (hstore : b.store.WellFormed) (hfailing : b.store.failing = []) :
    Twins tenant b b :=
  ⟨rfl, hstore, hstore, hfailing, hfailing, rfl⟩

/-- Backends that hold the same still do so after changes that do not matter. -/
theorem Twins.of_spares (h : Twins tenant b b') (hb : Spares tenant b b₁)
    (hb' : Spares tenant b' b₁') : Twins tenant b₁ b₁' where
  shelves := hb'.shelves.trans (h.shelves.trans hb.shelves.symm)
  store := hb.store
  store' := hb'.store
  failing := hb.failing.trans h.failing
  failing' := hb'.failing.trans h.failing'
  tuples := hb'.tuples.trans (h.tuples.trans hb.tuples.symm)

/-- They stay twins of what another tenant's calls have changed. -/
theorem Twins.spares (h : Twins tenant b b') (hb : Spares tenant b b₁) : Twins tenant b₁ b' :=
  h.of_spares hb (.refl h.store')

/-! ## Calls of other tenants -/

/-- A call that opens a store matters to nobody's tuples. -/
theorem spares_openStore (hstore : b.store.WellFormed) (tenant other : String) :
    Spares tenant b (b.call (.openStore other)).2 := by
  obtain ⟨hwf, -, htuples⟩ := Store.getOrCreate_spec hstore other
  exact ⟨rfl, hwf, (Store.getOrCreate_keeps _ _).2, fun id hid => Store.get?_ids_getOrCreate hstore hid other,
    htuples tenant⟩

/-- A listing spares every tenant. -/
theorem spares_list (hstore : b.store.WellFormed) (tenant : String) (kind : ResourceKind)
    (space : Option String) (limit : Nat) (token : Option String) :
    Spares tenant b (b.call (.list kind space limit token)).2 := by
  obtain ⟨hshelves, hsame⟩ := same_call_list b kind space limit token
  exact ⟨hshelves, hsame ▸ hstore, by rw [hsame], fun _ hid => hsame ▸ hid, by rw [hsame]⟩

/-- A call about the store of a tenant does not matter to others. -/
theorem spares_call (hstore : b.store.WellFormed) (hid : b.store.ids.get? tenant = some id)
    (hne : other ≠ tenant) {c : Call} {limit : Nat} (hc : Concerns id (.call c limit)) :
    Spares other b (b.call c).2 := by
  cases c with
  | list kind space limit token => exact spares_list hstore other kind space limit token
  | tenants => exact hc.elim
  | openStore tenant => exact hc.elim
  | read id limit token => exact .refl hstore
  | write id' batch =>
    cases hc
    obtain ⟨hwf, hids, hcases⟩ := Store.write_cases hstore hid batch
    refine ⟨rfl, hwf, (Store.write_keeps _ _ _).2.2, fun id hid => hids ▸ hid, ?_⟩
    rcases hcases with ⟨-, htuples⟩ | ⟨-, -, htuples⟩
    · exact htuples other
    · exact htuples other hne

/-! ## Calls of the tenant itself -/

/-- When no write call is made to fail, a write to the store of a tenant applies its batch. -/
theorem write_of_failing_eq_nil {s : Store} (hstore : s.WellFormed) (hfailing : s.failing = [])
    (hid : s.ids.get? tenant = some id) (batch : Batch) :
    (s.write id batch).1 = .ok () ∧
      (s.write id batch).2.tuplesOf tenant = batch.applyTo (s.tuplesOf tenant) := by
  have hkept : s.calls.length + 1 ∉ s.failing := hfailing ▸ List.not_mem_nil
  rw [Store.write_eq, if_neg hkept, hstore.get?_contents hid]
  refine ⟨rfl, ?_⟩
  rw [Store.tuplesOf_setTuples (hstore.arrive id batch) hid, if_pos rfl]

/-- A tenant's store stays where it is when it is written to. -/
theorem ids_write (hid : b.store.ids.get? tenant = some id) (batch : Batch) :
    (b.call (.write id batch)).2.store.ids.get? tenant = some id := by
  show (b.store.write id batch).2.ids.get? tenant = some id
  rw [(Store.write_keeps _ id batch).1, hid]

/-- Twins have the same pages of the tenant's tuples. -/
theorem Twins.read (h : Twins tenant b b') (hid : b.store.ids.get? tenant = some id)
    (hid' : b'.store.ids.get? tenant = some id') (limit : Nat) (token : Option String) :
    b'.store.read id' limit token = b.store.read id limit token := by
  rw [Store.read, Store.read, h.store.get?_contents hid, h.store'.get?_contents hid', h.tuples]

/-- They have the same pages of resources. -/
theorem Twins.list (h : Twins tenant b b') (kind : ResourceKind) (space : Option String)
    (limit : Nat) (token : Option String) :
    (b'.call (.list kind space limit token)).1 = (b.call (.list kind space limit token)).1 := by
  cases htoken : offset token with
  | error detail => rw [call_list_of_error htoken, call_list_of_error htoken]
  | ok n => rw [call_list_of_ok htoken, call_list_of_ok htoken, Lister.shelf_congr h.shelves]

/-- When no write call is made to fail, twins write the same. -/
theorem Twins.write (h : Twins tenant b b') (hid : b.store.ids.get? tenant = some id)
    (hid' : b'.store.ids.get? tenant = some id') (batch : Batch) :
    (b'.call (.write id' batch)).1 = (b.call (.write id batch)).1 ∧
      Twins tenant (b.call (.write id batch)).2 (b'.call (.write id' batch)).2 := by
  obtain ⟨hok, htuples⟩ := write_of_failing_eq_nil h.store h.failing hid batch
  obtain ⟨hok', htuples'⟩ := write_of_failing_eq_nil h.store' h.failing' hid' batch
  refine ⟨hok'.trans hok.symm, h.shelves, ?_, ?_, ?_, ?_, ?_⟩
  · exact (Store.write_cases h.store hid batch).1
  · exact (Store.write_cases h.store' hid' batch).1
  · exact (Store.write_keeps _ _ _).2.2.trans h.failing
  · exact (Store.write_keeps _ _ _).2.2.trans h.failing'
  · exact htuples'.trans (h.tuples ▸ htuples.symm)

/-- Backends that hold the same for a tenant answer a call about its store alike, and hold the same
afterwards. -/
theorem Twins.call (h : Twins tenant b b') (hid : b.store.ids.get? tenant = some id)
    (hid' : b'.store.ids.get? tenant = some id') {c : Call} {limit : Nat}
    (hc : Concerns id (.call c limit)) :
    c.verdictBack id' (.answered (b'.call (c.relocate id')).1) = .answered (b.call c).1 ∧
      Twins tenant (b.call c).2 (b'.call (c.relocate id')).2 ∧
      (b.call c).2.store.ids.get? tenant = some id ∧
      (b'.call (c.relocate id')).2.store.ids.get? tenant = some id' := by
  -- Only calls about the tenant concern it, so the store that is named is its own.
  cases c with
  | tenants => exact hc.elim
  | openStore other => exact hc.elim
  | list kind space limit token =>
    have hb := spares_list h.store tenant kind space limit token
    have hb' := spares_list h.store' tenant kind space limit token
    have hlist := congrArg Verdict.answered (h.list kind space limit token)
    exact ⟨hlist, h.of_spares hb hb', hb.ids id hid,
      hb'.ids id' hid'⟩
  | read other limit token =>
    cases hc
    exact ⟨congrArg Verdict.answered (h.read hid hid' limit token), h, hid, hid'⟩
  | write other batch =>
    cases hc
    obtain ⟨hok, htwins⟩ := h.write hid hid' batch
    exact ⟨congrArg Verdict.answered hok, htwins, ids_write hid batch, ids_write hid' batch⟩

end Backends

/-! ## Answers -/

namespace Luck

open Backends

variable {luck : Luck} {b b' b₁ : Backends} {past past₁ : List Call} {tenant other id id' : String}

/-- Backends that hold the same for a tenant answer a question about its store alike, and hold the
same afterwards. -/
theorem answer_twins (h : Twins tenant b b') (hid : b.store.ids.get? tenant = some id)
    (hid' : b'.store.ids.get? tenant = some id') {q : Request} (hq : Concerns id q)
    {a : q.Answer} (ha : luck.answer tenant q (b, past) = (a, b₁, past₁)) :
    ∃ a' b₁', luck.answer tenant (q.relocate id') (b', past) = (a', b₁', past₁) ∧
      q.answerBack id' a' = a ∧ Twins tenant b₁ b₁' ∧ b₁.store.ids.get? tenant = some id ∧
      b₁'.store.ids.get? tenant = some id' := by
  cases q with
  | publish snapshot => exact hq.elim
  | call c limit =>
    obtain ⟨hanswer, htwins, hids, hids'⟩ := h.call hid hid' hq
    -- Luck goes by the calls so far, and these are compared without the names of stores.
    have hpast : (c.relocate id').relocate "" = c.relocate "" := by cases c <;> rfl
    have hinstead := luck.instead?_relocate tenant past c id'
    simp only [Request.relocate, answer, hpast] at ha ⊢
    cases hother : luck.instead? tenant past (c.relocate id') with
    | none =>
      rw [hother, Option.map_none] at hinstead
      rw [hinstead] at ha
      cases ha
      exact ⟨_, _, rfl, hanswer, htwins, hids, hids'⟩
    | some o =>
      obtain ⟨v, effective⟩ := o
      rw [hother, Option.map_some] at hinstead
      rw [hinstead] at ha
      cases ha
      refine ⟨_, _, rfl, rfl, ?_⟩
      cases effective with
      | true => exact ⟨htwins, hids, hids'⟩
      | false => exact ⟨h, hid, hid'⟩

/-- A tenant's question about its store does not matter to others. -/
theorem answer_spares (hstore : b.store.WellFormed) (hid : b.store.ids.get? tenant = some id)
    (hne : other ≠ tenant) {q : Request} (hq : Concerns id q) {a : q.Answer}
    (ha : luck.answer tenant q (b, past) = (a, b₁, past₁)) : Spares other b b₁ := by
  cases q with
  | publish snapshot => exact hq.elim
  | call c limit =>
    have hcall := spares_call hstore hid hne hq
    rw [answer] at ha
    split at ha
    · cases ha
      exact hcall
    · next v effective _ =>
      cases ha
      cases effective with
      | true => exact hcall
      | false => exact .refl hstore

/-- Bad luck never names a store. -/
theorem unnamed_instead? {v : Verdict (Except StoreError String)} {effective : Bool}
    (h : luck.instead? tenant past (.openStore other) = some (v, effective)) (id : String) :
    v ≠ .answered (.ok id) := by
  obtain ⟨o, ho, heq⟩ := Option.map_eq_some_iff.1 h
  cases heq
  exact luck.unnamed ho id

/-- Opening its store matters to no tenant's tuples. From backends that hold the same, the pass
hears of a store in both, or of the same failure. -/
theorem answer_openStore (h : Twins tenant b b') {limit : Nat}
    {v : Verdict (Except StoreError String)}
    (ha : luck.answer tenant (.call (.openStore tenant) limit) (b, past) = (v, b₁, past₁)) :
    (∀ other, Spares other b b₁) ∧ ∃ v' b₁',
      luck.answer tenant (.call (.openStore tenant) limit) (b', past) = (v', b₁', past₁) ∧
      Twins tenant b₁ b₁' ∧
      ((∃ id id', v = .answered (.ok id) ∧ v' = .answered (.ok id') ∧
          b₁.store.ids.get? tenant = some id ∧ b₁'.store.ids.get? tenant = some id') ∨
        v' = v ∧ ∀ id, v ≠ .answered (.ok id)) := by
  have hspares := fun other => spares_openStore h.store other tenant
  have hspares' := spares_openStore h.store' tenant tenant
  have htwins := h.of_spares (hspares tenant) hspares'
  rw [answer] at ha
  rw [answer]
  cases hinstead : luck.instead? tenant past (.openStore tenant) with
  | none =>
    rw [hinstead] at ha
    cases ha
    have hid := (Store.getOrCreate_spec h.store tenant).2.1
    have hid' := (Store.getOrCreate_spec h.store' tenant).2.1
    exact ⟨hspares, _, _, rfl, htwins, .inl ⟨_, _, rfl, rfl, hid, hid'⟩⟩
  | some o =>
    obtain ⟨v', effective⟩ := o
    rw [hinstead] at ha
    cases ha
    have hfails := unnamed_instead? hinstead
    cases effective with
    | true => exact ⟨hspares, _, _, rfl, htwins, .inr ⟨rfl, hfails⟩⟩
    | false => exact ⟨fun _ => .refl h.store, _, _, rfl, h, .inr ⟨rfl, hfails⟩⟩

end Luck

end PolicySync.Memory
