import PolicySync.Proofs.Memory.Backends
import PolicySync.Proofs.Memory.Store

/-!
# Answers that may go wrong

`Backends.Answers` is every way in which a question of a pass can be answered: the call reaches its
backend and the pass hears the result, or the pass hears of a failure, be it an error, the end of its
time, or a cancellation. A call whose failure is heard has had its whole effect or none. Only a write
call changes tuples (`Answers.keeps`, `Answers.write`).
-/

namespace PolicySync

/-- A call has ended without a result for the pass. -/
def Call.Fails : (c : Call) → Verdict c.Result → Prop
  | .list _ _ _ _, v => ∀ page, v ≠ .answered (.ok page)
  | .tenants, v => ∀ names, v ≠ .answered (.ok names)
  | .openStore _, v => ∀ id, v ≠ .answered (.ok id)
  | .read _ _ _, v => ∀ page, v ≠ .answered (.ok page)
  | .write _ _, v => v ≠ .answered (.ok ())

/-- Whether a question asks for a write. -/
def Request.isWrite : Request → Bool
  | .call (.write _ _) _ => true
  | _ => false

namespace Memory

namespace Backends

/-- Resources and tuples are the same; the numbers of calls may differ. -/
structure Agrees (b b' : Backends) : Prop where
  shelves : b'.lister.shelves = b.lister.shelves
  ids : b'.store.ids = b.store.ids
  contents : b'.store.contents = b.store.contents

/-- The ways in which a question can be answered. -/
inductive Answers (b : Backends) : (q : Request) → q.Answer → Backends → Prop where
  /-- The question reaches its backend, and the pass hears the answer. -/
  | heard (q : Request) : Answers b q (answer q b).1 (answer q b).2
  /-- The call reaches its backend, and the pass hears of a failure. -/
  | unheard {c : Call} {limit : Nat} {v : Verdict c.Result} (hv : c.Fails v) :
      Answers b (.call c limit) v (b.call c).2
  /-- The call has no effect, and the pass hears of a failure. -/
  | failed {c : Call} {limit : Nat} {v : Verdict c.Result} {b' : Backends} (hv : c.Fails v)
      (hb : b.Agrees b') : Answers b (.call c limit) v b'

/-- Resources are the same, and the store of a tenant has not moved. -/
structure Keeps (tenant : String) (b b' : Backends) : Prop where
  shelves : b'.lister.shelves = b.lister.shelves
  store : b'.store.WellFormed
  ids : ∀ id, b.store.ids.get? tenant = some id → b'.store.ids.get? tenant = some id

variable {b b' : Backends} {tenant id : String}

/-- Backends that agree keep what matters to a tenant. -/
theorem Agrees.keeps (h : b.Agrees b') (hstore : b.store.WellFormed) : Keeps tenant b b' where
  shelves := h.shelves
  store := by
    obtain ⟨numbered, apart, present, owned, keyed⟩ := hstore
    rw [← h.ids] at numbered apart present owned
    rw [← h.contents] at present owned keyed
    exact ⟨numbered, apart, present, owned, keyed⟩
  ids id hid := h.ids ▸ hid

/-- In them all tenants have the same tuples. -/
theorem Agrees.tuplesOf (h : b.Agrees b') : b'.store.tuplesOf tenant = b.store.tuplesOf tenant := by
  rw [Store.tuplesOf, h.ids, h.contents, Store.tuplesOf]

/-- A call that is no write moves no store and changes no tuples. -/
theorem keeps_call (hstore : b.store.WellFormed) {c : Call}
    (hc : (Request.call c limit).isWrite = false) :
    Keeps tenant b (b.call c).2 ∧
      (b.call c).2.store.tuplesOf tenant = b.store.tuplesOf tenant := by
  cases c with
  | list kind space limit token =>
    obtain ⟨hshelves, hsame⟩ := same_call_list b kind space limit token
    rw [hsame]
    exact ⟨⟨hshelves, hsame ▸ hstore, fun id hid => hsame ▸ hid⟩, rfl⟩
  | tenants => exact ⟨⟨rfl, hstore, fun _ hid => hid⟩, rfl⟩
  | openStore other =>
    obtain ⟨hwf, -, htuples⟩ := Store.getOrCreate_spec hstore other
    refine ⟨⟨rfl, hwf, fun id hid => ?_⟩, htuples tenant⟩
    exact Store.get?_ids_getOrCreate hstore hid other
  | read id limit token => exact ⟨⟨rfl, hstore, fun _ hid => hid⟩, rfl⟩
  | write id batch => cases hc

/-- However a question that asks for no write is answered, no store moves and no tuples change. -/
theorem Answers.keeps {q : Request} {a : q.Answer} (h : b.Answers q a b') (tenant : String)
    (hstore : b.store.WellFormed) (hq : q.isWrite = false) :
    Keeps tenant b b' ∧ b'.store.tuplesOf tenant = b.store.tuplesOf tenant := by
  cases h with
  | heard =>
    cases q with
    | call c limit => exact keeps_call hstore hq
    | publish snapshot => exact ⟨⟨rfl, hstore, fun _ hid => hid⟩, rfl⟩
  | unheard hv => exact keeps_call hstore hq
  | failed hv hb => exact ⟨hb.keeps hstore, hb.tuplesOf⟩

/-- A write to the store of a tenant applies its batch, or fails and changes no tuples. -/
theorem Answers.write {batch : Batch} {limit : Nat} {v : Verdict (Except StoreError Unit)}
    (h : b.Answers (.call (.write id batch) limit) v b') (hstore : b.store.WellFormed)
    (hid : b.store.ids.get? tenant = some id) :
    Keeps tenant b b' ∧
      (b'.store.tuplesOf tenant = batch.applyTo (b.store.tuplesOf tenant) ∨
        b'.store.tuplesOf tenant = b.store.tuplesOf tenant ∧ v ≠ .answered (.ok ())) := by
  obtain ⟨hwf, hids, hcases⟩ := Store.write_cases hstore hid batch
  have hkeeps : Keeps tenant b (b.call (.write id batch)).2 :=
    ⟨rfl, hwf, fun id' hid' => hids ▸ hid'⟩
  cases h with
  | heard =>
    refine ⟨hkeeps, ?_⟩
    rcases hcases with ⟨⟨e, he⟩, htuples⟩ | ⟨-, htuples, -⟩
    · refine .inr ⟨htuples tenant, fun hok => ?_⟩
      have hresult : (b.store.write id batch).1 = .ok () := Verdict.answered.inj hok
      rw [he] at hresult
      cases hresult
    · exact .inl htuples
  -- The call has done what it would have done, but nobody was told.
  | unheard hv =>
    refine ⟨hkeeps, ?_⟩
    rcases hcases with ⟨-, htuples⟩ | ⟨-, htuples, -⟩
    · exact .inr ⟨htuples tenant, hv⟩
    · exact .inl htuples
  | failed hv hb => exact ⟨hb.keeps hstore, .inr ⟨hb.tuplesOf, hv⟩⟩

/-- A listing that is heard has the page at the offset of its token. -/
theorem Answers.list {kind : ResourceKind} {space token : Option String} {limit time : Nat}
    {v : Verdict (Except ListError (Page Resource))} {page : Page Resource}
    (h : b.Answers (.call (.list kind space limit token) time) v b')
    (hv : v = .answered (.ok page)) :
    ∃ n, offset token = .ok n ∧ page = pageAt (b.lister.shelf ⟨kind, space⟩) n limit := by
  cases h with
  | heard =>
    have hresult : (b.call (.list kind space limit token)).1 = .ok page := Verdict.answered.inj hv
    cases htoken : offset token with
    | error detail =>
      rw [call_list_of_error htoken] at hresult
      cases hresult
    | ok n =>
      rw [call_list_of_ok htoken] at hresult
      exact ⟨n, rfl, (Except.ok.inj hresult).symm⟩
  | unheard hfails => exact absurd hv (hfails page)
  | failed hfails hb => exact absurd hv (hfails page)

/-- A page of the tenant's store that is heard is the one at the offset of its token. -/
theorem Answers.read {token : Option String} {limit time : Nat}
    {v : Verdict (Except StoreError (Page Tuple))} {page : Page Tuple}
    (h : b.Answers (.call (.read id limit token) time) v b') (hv : v = .answered (.ok page))
    (hstore : b.store.WellFormed) (hid : b.store.ids.get? tenant = some id) :
    ∃ n, offset token = .ok n ∧ page = pageAt (b.store.tuplesOf tenant).values n limit := by
  cases h with
  | heard =>
    have hresult : b.store.read id limit token = .ok page := Verdict.answered.inj hv
    rw [Store.read] at hresult
    cases htoken : offset token with
    | error detail =>
      rw [htoken] at hresult
      cases hresult
    | ok n =>
      simp only [htoken, hstore.get?_contents hid] at hresult
      exact ⟨n, rfl, (Except.ok.inj hresult).symm⟩
  | unheard hfails => exact absurd hv (hfails page)
  | failed hfails hb => exact absurd hv (hfails page)

/-- A store that is opened is the tenant's. -/
theorem Answers.openStore {limit : Nat} {v : Verdict (Except StoreError String)}
    (h : b.Answers (.call (.openStore tenant) limit) v b') (hv : v = .answered (.ok id))
    (hstore : b.store.WellFormed) : b'.store.ids.get? tenant = some id := by
  cases h with
  | heard =>
    obtain ⟨-, hid, -⟩ := Store.getOrCreate_spec hstore tenant
    have hresult : (b.store.getOrCreate tenant).1 = id := Except.ok.inj (Verdict.answered.inj hv)
    exact hresult ▸ hid
  | unheard hfails => exact absurd hv (hfails id)
  | failed hfails hb => exact absurd hv (hfails id)

end Backends

end Memory

end PolicySync
