import PolicySync.Proofs.SortedMap
import PolicySync.Proofs.TupleService.Lookup
import PolicySync.Simulation.Server

/-!
# Stores of tenants in succession

A client opens the stores of some tenants one after the other. An `Opening` is one such call with all
that can be seen of it: the stores that are remembered before and after it, and its exchanges.
Whatever the service answers, a call comes to an end as soon as the list of stores does, and it looks
up the store (`Client.Provision`) only if none is remembered (`exists_opening`). What is remembered
before a call is what earlier calls have brought (`Service.OpensAll.before_get?_iff`), so a tenant
keeps its store from the first call that succeeds on (`stores_opened_in_succession`).

Servers that answer by a list of outcomes are such services (`scripted`), and their lists of stores
always end (`listEnds_scripted`). `pagedServer` is one that looks at the requests instead.
-/

namespace PolicySync.TupleService

variable {S : Type} {v : Service S} {c : Client}

/-! ## One call -/

/-- The request that creates a store of a name. -/
def Client.createRequest (c : Client) (name : String) : Http.Request where
  method := .post
  target := c.baseUrl ++ "/stores"
  query := []
  body := some (.object [("name", .str name)])
  token := c.apiToken

/-- This is what the client asks when it creates a store. -/
theorem Client.postRequest_stores (c : Client) (name : String) :
    c.postRequest "/stores" (encodeCreate name) = c.createRequest name := rfl

/-- The exchanges provide the store of a name, with this result. One request creates the store, after
a search that has found none. -/
inductive Client.Provision (c : Client) (name : String) :
    List Exchange → Except ServiceError String → Prop where
  | found {es : List Exchange} {store : Store} (h : c.Search name none es (.ok (some store))) :
      Provision c name es (.ok store.id)
  | failed {es : List Exchange} {e : ServiceError} (h : c.Search name none es (.error e)) :
      Provision c name es (.error e)
  | created {es : List Exchange} (h : c.Search name none es (.ok none)) (outcome : Http.Outcome) :
      Provision c name (es ++ [⟨c.createRequest name, outcome⟩])
        ((received Store.decode outcome).map (·.id))

/-- If the list of stores ends, the client provides a store. -/
theorem exists_provision {w : Session S} (hlist : v.ListEnds c none w.service) (name : String) :
    ∃ es r s, Script.Ends v.answer (c.provideStore name) w r (w.extend s es) ∧
      c.Provision name es r ∧ v.Leads w.service s := by
  obtain ⟨es, r, s, hends, hsearch, hleads⟩ := Client.exists_search_from hlist name w rfl
  match r with
  | .error e =>
    exact ⟨es, _, s, Script.ends_bind.2 ⟨_, _, hends, Script.ends_done.2 ⟨rfl, rfl⟩⟩,
      .failed hsearch, hleads⟩
  | .ok (some store) =>
    exact ⟨es, _, s, Script.ends_bind.2 ⟨_, _, hends, Script.ends_done.2 ⟨rfl, rfl⟩⟩,
      .found hsearch, hleads⟩
  | .ok none =>
    refine ⟨_, _, (v.exchange (c.createRequest name) s).2, Script.ends_bind.2 ⟨_, _, hends, ?_⟩,
      .created hsearch (v.exchange (c.createRequest name) s).1, hleads.tail ⟨_, rfl⟩⟩
    rw [← Session.extend_extend]
    exact .ask rfl (.done rfl)

/-- A call for the store of a tenant, and what can be seen of it. -/
structure Opening where
  tenant : String
  /-- The stores that are remembered before the call. -/
  before : SortedMap String String
  exchanges : List Exchange
  result : Except ServiceError String
  /-- The stores that are remembered after the call. -/
  after : SortedMap String String

/-- The store is provided if none is remembered, and remembered then. -/
structure Opening.Proper (c : Client) (o : Opening) : Prop where
  known : ∀ id, o.before.get? o.tenant = some id →
    o.exchanges = [] ∧ o.result = .ok id ∧ o.after = o.before
  provided : o.before.get? o.tenant = none →
    c.Provision (c.storePrefix ++ o.tenant) o.exchanges o.result
  kept : o.before.get? o.tenant = none →
    ∀ id, o.result = .ok id → o.after = o.before.insert o.tenant id
  /-- A call that fails leaves what is remembered as it is. -/
  failed : ∀ e, o.result = .error e → o.after = o.before

/-- After a call those stores are remembered that were before, and the one that it has brought. -/
theorem Opening.Proper.after_get?_iff {o : Opening} (h : o.Proper c) {tenant id : String} :
    o.after.get? tenant = some id ↔
      o.before.get? tenant = some id ∨ o.tenant = tenant ∧ o.result = .ok id := by
  -- An opening remembers a store only where none was known.
  cases hbefore : o.before.get? o.tenant with
  | some known =>
    obtain ⟨-, hresult, hafter⟩ := h.known known hbefore
    rw [hafter, hresult]
    constructor
    · exact .inl
    · rintro (hsome | ⟨rfl, hid⟩)
      · exact hsome
      · cases hid
        exact hbefore
  | none =>
    cases hresult : o.result with
    | error e =>
      rw [h.failed e hresult]
      simp
    | ok new =>
      rw [h.kept hbefore new hresult, SortedMap.get?_insert]
      by_cases htenant : tenant = o.tenant
      · subst htenant
        simp [hbefore]
      · simp [htenant, Ne.symm htenant]

namespace Service

/-- The client makes a call in a session. -/
structure Opens (v : Service S) (c : Client) (w : Session S) (o : Opening) (w' : Session S) :
    Prop where
  ends : Script.Ends v.answer (c.openStore o.tenant) w o.result w'
  before : o.before = w.stores
  exchanges : w'.exchanges = w.exchanges ++ o.exchanges
  after : o.after = w'.stores

/-- The client makes some calls in a session, one after the other. -/
inductive OpensAll (v : Service S) (c : Client) :
    Session S → List Opening → Session S → Prop where
  | nil (w : Session S) : v.OpensAll c w [] w
  | cons {w w₁ w' : Session S} {o : Opening} {calls : List Opening} (h : v.Opens c w o w₁)
      (hrest : v.OpensAll c w₁ calls w') : v.OpensAll c w (o :: calls) w'

/-- If the list of stores ends, a call ends properly. -/
theorem exists_opening {w : Session S} (hlist : v.ListEnds c none w.service) (tenant : String) :
    ∃ o w', o.tenant = tenant ∧ v.Opens c w o w' ∧ o.Proper c ∧ v.Leads w.service w'.service := by
  cases hknown : w.stores.get? tenant with
  -- A tenant that is known needs no request.
  | some id =>
    have hends : Script.Ends v.answer (c.openStore tenant) w (.ok id) w := by
      refine .ask rfl ?_
      simp only [answer, hknown]
      exact .done rfl
    exact ⟨⟨tenant, w.stores, [], .ok id, w.stores⟩, w, rfl, ⟨hends, rfl, by simp, rfl⟩,
      ⟨by simp [hknown], by simp [hknown], by simp [hknown], by simp⟩, .refl⟩
  | none =>
    obtain ⟨es, r, s, hends, hprovision, hleads⟩ := exists_provision hlist (c.storeName tenant)
    cases r with
    | error e =>
      have hends' : Script.Ends v.answer (c.openStore tenant) w (.error e) (w.extend s es) := by
        refine .ask rfl ?_
        simp only [answer, hknown]
        exact Script.ends_bind.2 ⟨_, _, hends, .done rfl⟩
      exact ⟨⟨tenant, w.stores, es, .error e, w.stores⟩, w.extend s es, rfl,
        ⟨hends', rfl, rfl, rfl⟩, ⟨by simp [hknown], fun _ => hprovision, by simp, by simp⟩, hleads⟩
    | ok id =>
      have hends' : Script.Ends v.answer (c.openStore tenant) w (.ok id)
          { w.extend s es with stores := w.stores.insert tenant id } := by
        refine .ask rfl ?_
        simp only [answer, hknown]
        exact Script.ends_bind.2 ⟨_, _, hends, .ask rfl (.done rfl)⟩
      exact ⟨⟨tenant, w.stores, es, .ok id, w.stores.insert tenant id⟩, _, rfl,
        ⟨hends', rfl, rfl, rfl⟩, ⟨by simp [hknown], fun _ => hprovision, by simp, by simp⟩, hleads⟩

end Service

/-! ## Servers that answer by a list -/

/-- A server that answers by a list of outcomes. -/
def scripted : Service Simulation.Server where
  exchange request s := s.exchange request

/-- No outcome is added to the list, and what comes after its end stays the same. -/
theorem of_leads_scripted {s s' : Simulation.Server} (h : scripted.Leads s s') :
    s'.outcomes.length ≤ s.outcomes.length ∧ s'.exhausted = s.exhausted := by
  induction h with
  | refl => exact ⟨Nat.le_refl _, rfl⟩
  | @tail s₁ s₂ _ hstep ih =>
    obtain ⟨request, rfl⟩ := hstep
    have hone : (s₁.exchange request).2.outcomes.length ≤ s₁.outcomes.length ∧
        (s₁.exchange request).2.exhausted = s₁.exhausted := by
      rw [Simulation.Server.exchange]
      split
      · split <;> simp [*]
      · exact ⟨Nat.le_refl _, rfl⟩
    exact ⟨Nat.le_trans hone.1 ih.1, hone.2.trans ih.2⟩

/-- If no page comes after the end of the list, a list of stores takes up one outcome for each page, so
it ends. -/
theorem listEnds_scripted (c : Client) (token : Option String) {s : Simulation.Server}
    (hend : ∀ page, received decodeStores s.exhausted ≠ .ok page) :
    scripted.ListEnds c token s := by
  induction hn : s.outcomes.length using Nat.strongRecOn generalizing token s with
  | ind n ih =>
    refine .page fun s' page next hfails hpage _ _ => ?_
    obtain ⟨hlength, hexhausted⟩ := of_leads_scripted hfails.leads
    rw [← hexhausted] at hend
    -- A page that is read uses up an outcome of the script.
    have hfewer : (s'.exchange (c.pageRequest token)).2.outcomes.length < s'.outcomes.length := by
      simp only [scripted, Simulation.Server.exchange] at hpage ⊢
      split at hpage
      · next hreach =>
        cases houtcomes : s'.outcomes with
        | nil => simp [houtcomes, hend] at hpage
        | cons o rest => simp [hreach]
      · cases hpage
    refine ih _ (hn ▸ Nat.lt_of_lt_of_le hfewer hlength) _ ?_ rfl
    rw [(of_leads_scripted (.single ⟨_, rfl⟩)).2]
    exact hend

/-! ## One call after the other -/

namespace Service

/-- A call goes in one way. -/
theorem Opens.unique {w wa wb : Session S} {a b : Opening} (ha : v.Opens c w a wa)
    (hb : v.Opens c w b wb) (htenant : a.tenant = b.tenant) : a = b ∧ wa = wb := by
  obtain ⟨tenant, before, es, result, after⟩ := a
  obtain ⟨tenant', before', es', result', after'⟩ := b
  cases htenant
  obtain ⟨rfl, rfl⟩ := ha.ends.unique hb.ends
  obtain rfl : before = before' := ha.before.trans hb.before.symm
  obtain rfl : after = after' := ha.after.trans hb.after.symm
  obtain rfl : es = es' := List.append_cancel_left (ha.exchanges.symm.trans hb.exchanges)
  exact ⟨rfl, rfl⟩

/-- Calls for the stores of the same tenants go in one way. -/
theorem OpensAll.unique {w wa wb : Session S} {as bs : List Opening} (ha : v.OpensAll c w as wa)
    (hb : v.OpensAll c w bs wb) (htenants : as.map (·.tenant) = bs.map (·.tenant)) :
    as = bs ∧ wa = wb := by
  induction ha generalizing bs with
  | nil =>
    cases hb with
    | nil => exact ⟨rfl, rfl⟩
    | cons _ _ => cases htenants
  | cons hfirst _ ih =>
    cases hb with
    | nil => cases htenants
    | cons hfirst' hrest' =>
      obtain ⟨htenant, hothers⟩ := List.cons.inj htenants
      obtain ⟨rfl, rfl⟩ := hfirst.unique hfirst' htenant
      obtain ⟨rfl, rfl⟩ := ih hrest' hothers
      exact ⟨rfl, rfl⟩

/-- As long as the lists of stores end, calls end properly, one after the other. -/
theorem exists_openings {w : Session S} (hlists : ∀ s, v.Leads w.service s → v.ListEnds c none s)
    (tenants : List String) :
    ∃ calls w', v.OpensAll c w calls w' ∧ calls.map (·.tenant) = tenants ∧
      ∀ o ∈ calls, o.Proper c := by
  induction tenants generalizing w with
  | nil => exact ⟨[], w, .nil w, rfl, by simp⟩
  | cons tenant tenants ih =>
    obtain ⟨o, w₁, rfl, hopens, hproper, hleads⟩ := exists_opening (hlists _ .refl) tenant
    obtain ⟨calls, w', hrest, rfl, hall⟩ := @ih w₁ fun s hs => hlists s (hleads.trans hs)
    exact ⟨o :: calls, w', .cons hopens hrest, rfl, List.forall_mem_cons.2 ⟨hproper, hall⟩⟩

end Service

/-- What is remembered before a call was remembered at the start or is what an earlier call has
brought. -/
theorem Service.OpensAll.before_get?_iff {w w' : Session S} {calls : List Opening}
    (h : v.OpensAll c w calls w') (hproper : ∀ o ∈ calls, o.Proper c)
    {earlier later : List Opening} {o : Opening} (hcalls : calls = earlier ++ o :: later)
    {tenant id : String} :
    o.before.get? tenant = some id ↔
      w.stores.get? tenant = some id ∨ ∃ a ∈ earlier, a.tenant = tenant ∧ a.result = .ok id := by
  induction h generalizing earlier with
  | nil => simp at hcalls
  | @cons w w₁ w' first calls hfirst _ ih =>
    obtain ⟨hproper₀, hproper⟩ := List.forall_mem_cons.1 hproper
    cases earlier with
    | nil =>
      obtain ⟨rfl, -⟩ := List.cons.inj hcalls
      simp [hfirst.before]
    | cons a earlier =>
      obtain ⟨rfl, hrest⟩ := List.cons.inj hcalls
      rw [ih hproper hrest, ← hfirst.after, hproper₀.after_get?_iff, hfirst.before,
        List.exists_mem_cons_iff, or_assoc]

/-- As long as the lists of stores end, calls for the stores of any tenants, in any order, end one
after the other. Each of them is a proper one: without a remembered store it asks for the pages of the
list (`Client.pageRequest`) from the first on, looks for the prefix with the tenant after it as a name,
and sends `Client.createRequest` once, after the last page. The store that a call finds remembered for
a tenant is the one that an earlier call has brought. -/
theorem stores_opened_in_succession (v : Service S) (c : Client) (w : Session S)
    (hlists : ∀ s, v.Leads w.service s → v.ListEnds c none s) (tenants : List String) :
    (∃ calls w', v.OpensAll c w calls w' ∧ calls.map (·.tenant) = tenants) ∧
    ∀ calls w', v.OpensAll c w calls w' → calls.map (·.tenant) = tenants →
      ∀ earlier o later, calls = earlier ++ o :: later → o.Proper c ∧
        ∀ tenant id, o.before.get? tenant = some id ↔
          w.stores.get? tenant = some id ∨ ∃ a ∈ earlier, a.tenant = tenant ∧ a.result = .ok id := by
  obtain ⟨calls, w', hopens, htenants, hproper⟩ := Service.exists_openings hlists tenants
  refine ⟨⟨calls, w', hopens, htenants⟩, ?_⟩
  intro calls' w'' hopens' htenants' earlier o later hcalls
  obtain ⟨rfl, rfl⟩ := hopens.unique hopens' (htenants.trans htenants'.symm)
  exact ⟨hproper o (hcalls ▸ List.mem_append_right _ List.mem_cons_self),
    fun tenant id => hopens.before_get?_iff hproper hcalls⟩

/-! ## A server with several pages -/

/-- A reply with a status and a body. -/
def repliedWith (status : Nat) (fields : List (String × Json.Value)) : Http.Outcome :=
  .reply { status, json := some (.object fields) }

/-- A store as the service lists it. -/
def listedStore (id name : String) : Json.Value := .object [("id", .str id), ("name", .str name)]

/-- A server whose list of stores has three pages. It creates the stores that it is asked for but one,
and answers nothing else, and nobody without the key. -/
def pagedServer : Service Unit where
  exchange request _ :=
    let outcome :=
      match request with
      | ⟨.get, "http://fga/stores", [("page_size", "100")], none, some "key"⟩ =>
        repliedWith 200 [("stores", .list [listedStore "s1" "tenant-north"]),
          ("continuation_token", .str "p2")]
      | ⟨.get, "http://fga/stores", [("page_size", "100"), ("continuation_token", "p2")], none,
          some "key"⟩ =>
        repliedWith 200 [("stores", .list [listedStore "s2" "south", listedStore "s3" "tenant-south",
          listedStore "s4" "tenant-south"]), ("continuation_token", .str "p3")]
      | ⟨.get, "http://fga/stores", [("page_size", "100"), ("continuation_token", "p3")], none,
          some "key"⟩ =>
        repliedWith 200 [("stores", .list [listedStore "s5" "tenant-east"]),
          ("continuation_token", .str "")]
      | ⟨.post, "http://fga/stores", [], some (.object [("name", .str "tenant-west")]),
          some "key"⟩ =>
        repliedWith 201 [("id", .str "s6"), ("name", .str "tenant-west")]
      | ⟨.post, "http://fga/stores", [], some (.object [("name", .str "tenant-closed")]),
          some "key"⟩ => repliedWith 403 []
      | _ => repliedWith 404 []
    (outcome, ())

/-- A client of that server. -/
def pagedClient : Client := { baseUrl := "http://fga", apiToken := some "key" }

/-- The exchange for a page of that server's list. -/
def pageExchange (more : List (String × String)) : Exchange :=
  let request := { target := "http://fga/stores", query := ("page_size", "100") :: more,
                   token := some "key" }
  ⟨request, (pagedServer.exchange request ()).1⟩

/-- The exchange for the creation of a store there. -/
def createExchange (name : String) : Exchange :=
  let request := { method := .post, target := "http://fga/stores",
                   body := some (.object [("name", .str name)]), token := some "key" }
  ⟨request, (pagedServer.exchange request ()).1⟩

/-- All pages of that server's list, one after the other. -/
def allPages : List Exchange :=
  [pageExchange [], pageExchange [("continuation_token", "p2")],
    pageExchange [("continuation_token", "p3")]]

/-- Five calls. The second one creates its store, the third one may not, and the fourth one finds its
store remembered. -/
def pagedOpenings : List Opening :=
  let south : SortedMap String String := SortedMap.empty.insert "south" "s3"
  let both := south.insert "west" "s6"
  [{ tenant := "south", before := .empty, exchanges := allPages.take 2, result := .ok "s3",
     after := south },
   { tenant := "west", before := south, exchanges := allPages ++ [createExchange "tenant-west"],
     result := .ok "s6", after := both },
   { tenant := "closed", before := both, exchanges := allPages ++ [createExchange "tenant-closed"],
     result := .error .unauthorized, after := both },
   { tenant := "south", before := both, exchanges := [], result := .ok "s3", after := both },
   { tenant := "closed", before := both, exchanges := allPages ++ [createExchange "tenant-closed"],
     result := .error .unauthorized, after := both }]

/-- The list of that server ends after its third page. -/
theorem listEnds_pagedServer (s : Unit) : pagedServer.ListEnds pagedClient none s := by
  have hlast : ∀ s, pagedServer.ListEnds pagedClient (some "p3") s := fun s =>
    .page fun _ page next _ hpage hnext hne => by
      cases hpage
      cases hnext
      exact absurd rfl hne
  have hsecond : ∀ s, pagedServer.ListEnds pagedClient (some "p2") s := fun s =>
    .page fun _ page next _ hpage hnext _ => by
      cases hpage
      cases hnext
      exact hlast _
  exact .page fun _ page next _ hpage hnext _ => by
    cases hpage
    cases hnext
    exact hsecond _

/-- With a server that looks at the requests, a store on the second page is found after two of them,
one that is on no page is created after all three, and a call that fails is made anew. -/
theorem stores_opened_page_by_page :
    (∀ s, pagedServer.Leads () s → pagedServer.ListEnds pagedClient none s) ∧
    (∃ w', pagedServer.OpensAll pagedClient { service := () } pagedOpenings w') ∧
    ∀ earlier o later, pagedOpenings = earlier ++ o :: later → o.Proper pagedClient ∧
      ∀ tenant id, o.before.get? tenant = some id ↔ SortedMap.empty.get? tenant = some id ∨
        ∃ a ∈ earlier, a.tenant = tenant ∧ a.result = .ok id := by
  have hlists : ∀ s, pagedServer.Leads () s → pagedServer.ListEnds pagedClient none s :=
    fun s _ => listEnds_pagedServer s
  have hopens : ∃ w', pagedServer.OpensAll pagedClient { service := () } pagedOpenings w' := by
    refine ⟨_, .cons ⟨Script.ends_of_run (show Script.run _ 8 _ _ = _ from rfl), rfl, rfl, rfl⟩
      (.cons ⟨Script.ends_of_run (show Script.run _ 8 _ _ = _ from rfl), rfl, rfl, rfl⟩
      (.cons ⟨Script.ends_of_run (show Script.run _ 8 _ _ = _ from rfl), rfl, rfl, rfl⟩
      (.cons ⟨Script.ends_of_run (show Script.run _ 8 _ _ = _ from rfl), rfl, rfl, rfl⟩
      (.cons ⟨Script.ends_of_run (show Script.run _ 8 _ _ = _ from rfl), rfl, rfl, rfl⟩ (.nil _)))))⟩
  obtain ⟨w', hopens'⟩ := hopens
  exact ⟨hlists, ⟨w', hopens'⟩, (stores_opened_in_succession pagedServer pagedClient
    { service := () } hlists ["south", "west", "closed", "south", "closed"]).2 pagedOpenings w'
      hopens' rfl⟩

end PolicySync.TupleService
