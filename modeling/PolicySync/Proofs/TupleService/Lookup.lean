import Mathlib.Logic.Function.Iterate
import Mathlib.Logic.Relation
import PolicySync.Proofs.Http.Retry
import PolicySync.TupleService.Client

/-!
# Looking up a store by its name

A `Service` answers the requests of a client in any way, and a `Session` is the client at work with
it, with a record of the exchanges. `Client.Search` says which exchanges look up a store: attempts at
one page after the other, each page at the token of the page before, until a page has a store of the
name, a page is the last one, or the attempts at a page fail.

The list of stores may be of any length, but it has to end (`Service.ListEnds`). Then the client makes
such a search (`exists_search_from`). How long a list still is and how many attempts are left are two
separate matters. The attempts at a page are those of any repetition (`exists_attempts`), so there is
an induction for the pages only.
-/

namespace PolicySync.TupleService

/-- What answers requests. Its state is whatever its answers depend on. -/
structure Service (S : Type) where
  /-- How the exchange for a request ends, and the state after it. -/
  exchange : Http.Request → S → Http.Outcome × S

/-- A request and how the exchange for it ended. -/
structure Exchange where
  request : Http.Request
  outcome : Http.Outcome

/-- A client at work with a service. -/
structure Session (S : Type) where
  service : S
  /-- The stores of tenants that are remembered. -/
  stores : SortedMap String String := .empty
  /-- The exchanges so far. -/
  exchanges : List Exchange := []

variable {S : Type}

/-- The session after some more exchanges. -/
def Session.extend (w : Session S) (service : S) (es : List Exchange) : Session S :=
  { w with service, exchanges := w.exchanges ++ es }

@[simp] theorem Session.extend_service (w : Session S) (s : S) (es : List Exchange) :
    (w.extend s es).service = s := rfl

@[simp] theorem Session.extend_stores (w : Session S) (s : S) (es : List Exchange) :
    (w.extend s es).stores = w.stores := rfl

@[simp] theorem Session.extend_exchanges (w : Session S) (s : S) (es : List Exchange) :
    (w.extend s es).exchanges = w.exchanges ++ es := rfl

@[simp] theorem Session.extend_extend (w : Session S) (s s' : S) (es es' : List Exchange) :
    (w.extend s es).extend s' es' = w.extend s' (es ++ es') := by
  simp [extend]

/-! ## Requests for pages -/

/-- The request for a page of the list of stores, a hundred of them to a page: the page of a token, or
the first one. -/
def Client.pageRequest (c : Client) (token : Option String) : Http.Request where
  method := .get
  target := c.baseUrl ++ "/stores"
  query := ("page_size", "100") :: (token.map ("continuation_token", ·)).toList
  body := none
  token := c.apiToken

/-- This is what the client asks when it looks up a store. -/
theorem Client.storesRequest_eq (c : Client) (token : Option String) :
    c.storesRequest token = c.pageRequest token := rfl

namespace Service

/-- The session after a request. -/
def send (v : Service S) (request : Http.Request) (w : Session S) : Session S :=
  w.extend (v.exchange request w.service).2 [⟨request, (v.exchange request w.service).1⟩]

/-- The answer to a question, and the session after it. -/
def answer (v : Service S) (q : Ask) (w : Session S) : q.Answer × Session S :=
  match q with
  | .send request => ((v.exchange request w.service).1, v.send request w)
  | .wait _ => ((), w)
  | .known tenant => (w.stores.get? tenant, w)
  | .remember tenant store => ((), { w with stores := w.stores.insert tenant store })

@[simp] theorem answer_send (v : Service S) (request : Http.Request) (w : Session S) :
    v.answer (.send request) w = ((v.exchange request w.service).1, v.send request w) := rfl

/-- The state after a request is sent so many times. -/
def after (v : Service S) (request : Http.Request) (s : S) (k : Nat) : S :=
  Nat.iterate (fun s => (v.exchange request s).2) k s

/-- How the exchange ends if a request is sent once more after it is sent so many times. -/
def outcome (v : Service S) (request : Http.Request) (s : S) (k : Nat) : Http.Outcome :=
  (v.exchange request (v.after request s k)).1

/-- The exchanges for a request that is sent so many times. -/
def exchanges (v : Service S) (request : Http.Request) (s : S) (n : Nat) : List Exchange :=
  (List.range n).map fun k => ⟨request, v.outcome request s k⟩

/-- The last exchange of several changes the service last. -/
theorem after_succ (v : Service S) (request : Http.Request) (s : S) (k : Nat) :
    v.after request s (k + 1) = (v.exchange request (v.after request s k)).2 :=
  Function.iterate_succ_apply' _ k s

/-- It is the last of the list too. -/
theorem exchanges_succ (v : Service S) (request : Http.Request) (s : S) (n : Nat) :
    v.exchanges request s (n + 1) =
      v.exchanges request s n ++ [⟨request, v.outcome request s n⟩] := by
  simp [exchanges, List.range_succ]

/-- Requests lead from one state to the other. -/
def Leads (v : Service S) : S → S → Prop :=
  Relation.ReflTransGen fun s s' => ∃ request, (v.exchange request s).2 = s'

/-- Attempts at the page of a token that bring no page lead from one state to the other. -/
def Fails (v : Service S) (c : Client) (token : Option String) : S → S → Prop :=
  Relation.ReflTransGen fun s s' =>
    (∃ e, received decodeStores (v.exchange (c.pageRequest token) s).1 = .error e) ∧
      (v.exchange (c.pageRequest token) s).2 = s'

/-- From the page of a token on, the list of stores comes to an end: whenever an attempt brings the
page, the rest of the list after it does. -/
inductive ListEnds (v : Service S) (c : Client) : Option String → S → Prop where
  | page {token : Option String} {s : S}
      (h : ∀ s' page next, v.Fails c token s s' →
        received decodeStores (v.exchange (c.pageRequest token) s').1 = .ok page →
        page.next = some next → next ≠ "" →
        v.ListEnds c (some next) (v.exchange (c.pageRequest token) s').2) : v.ListEnds c token s

/-- A page that fails leads the service on, by exchanges for that page. -/
theorem Fails.leads {v : Service S} {c : Client} {token : Option String} {s s' : S}
    (h : v.Fails c token s s') : v.Leads s s' :=
  Relation.ReflTransGen.mono (fun _ _ hstep => ⟨_, hstep.2⟩) _ _ h

/-- Attempts that fail one after the other make the page fail. -/
theorem fails_after {v : Service S} {c : Client} {token : Option String} {s : S} {n : Nat}
    (h : ∀ k < n, ∃ e,
      received decodeStores (v.outcome (c.pageRequest token) s k) = .error e) :
    v.Fails c token s (v.after (c.pageRequest token) s n) := by
  induction n with
  | zero => exact .refl
  | succ n ih =>
    rw [after_succ]
    exact .tail (ih fun k hk => h k (by omega)) ⟨h n (Nat.lt_succ_self n), rfl⟩

end Service

/-! ## Repetitions -/

/-- A request that is sent again as the retry policy says, and how its outcome is read. -/
def Client.repetition {α : Type} (c : Client) (request : Http.Request) (decode : Json.Decoder α) :
    Http.Repetition Ask Ask.Answer ServiceError α where
  policy := c.retry
  attempt := .send request
  wait := .wait
  read := received decode
  isPassing := ServiceError.isPassing
  broken := .brokenDown

section

variable {α : Type} (c : Client) (request : Http.Request) (decode : Json.Decoder α) (v : Service S)
  (w : Session S)

/-- One more exchange extends the session by one. -/
theorem Service.send_extend (k : Nat) :
    v.send request (w.extend (v.after request w.service k) (v.exchanges request w.service k)) =
      w.extend (v.after request w.service (k + 1)) (v.exchanges request w.service (k + 1)) := by
  rw [after_succ, exchanges_succ, ← Session.extend_extend]
  rfl

/-- Nothing happens between two attempts but the wait. -/
theorem Client.worlds_repetition (k : Nat) :
    (c.repetition request decode).worlds v.answer w k =
      w.extend (v.after request w.service k) (v.exchanges request w.service k) := by
  induction k with
  | zero => simp [Http.Repetition.worlds, Session.extend, Service.after, Service.exchanges]
  | succ k ih =>
    rw [Http.Repetition.worlds_succ, ih]
    exact v.send_extend request w k

/-- The attempts of a request see the service as the attempts before have left it. -/
theorem Client.outcome_repetition :
    (c.repetition request decode).outcome v.answer w =
      fun k => received decode (v.outcome request w.service k) := by
  funext k
  rw [Http.Repetition.outcome, worlds_repetition]
  rfl

end

/-! ## Searches -/

namespace Client

/-- The exchanges are attempts at the page of a token, as many as the retry policy asks for, and this
came of them. -/
def Attempts (c : Client) (token : Option String) (es : List Exchange)
    (result : Except ServiceError (Page Store)) : Prop :=
  ∃ (outcome : Nat → Http.Outcome) (n : Nat),
    es = (List.range n).map (fun k => ⟨c.pageRequest token, outcome k⟩) ∧
    (c.repetition (c.pageRequest token) decodeStores).Settles
      (fun k => received decodeStores (outcome k)) n result

/-- The exchanges brought pages one after the other from the page of a token on, each further page at
the token of the page before, and the next page is that of `last`. -/
inductive Walk (c : Client) :
    Option String → List Exchange → List (Page Store) → Option String → Prop where
  | refl (token : Option String) : Walk c token [] [] token
  | page {token last : Option String} {page : Page Store} {next : String}
      {es es' : List Exchange} {pages : List (Page Store)} (hpage : c.Attempts token es (.ok page))
      (hnext : page.next = some next) (hne : next ≠ "")
      (hrest : c.Walk (some next) es' pages last) : Walk c token (es ++ es') (page :: pages) last

/-- The exchanges look up a store by its name from the page of a token on, with this result. No page
before the last one asked for has a store of the name. -/
inductive Search (c : Client) (name : String) (token : Option String) :
    List Exchange → Except ServiceError (Option Store) → Prop where
  /-- The last page has a store of the name, of which the first counts. -/
  | found {es es' : List Exchange} {seen : List (Page Store)} {last : Option String}
      {page : Page Store} {store : Store} (hwalk : c.Walk token es seen last)
      (hseen : ∀ p ∈ seen, ∀ s ∈ p.items, s.name ≠ name) (hpage : c.Attempts last es' (.ok page))
      (hfirst : page.items.find? (·.name = name) = some store) :
      Search c name token (es ++ es') (.ok (some store))
  /-- The last page has none either, and no token of a further page. -/
  | missing {es es' : List Exchange} {seen : List (Page Store)} {last : Option String}
      {page : Page Store} (hwalk : c.Walk token es seen last)
      (hseen : ∀ p ∈ seen, ∀ s ∈ p.items, s.name ≠ name) (hpage : c.Attempts last es' (.ok page))
      (hnone : ∀ s ∈ page.items, s.name ≠ name) (hend : page.next = none ∨ page.next = some "") :
      Search c name token (es ++ es') (.ok none)
  /-- The attempts at the last page did not bring it. -/
  | failed {es es' : List Exchange} {seen : List (Page Store)} {last : Option String}
      {e : ServiceError} (hwalk : c.Walk token es seen last)
      (hseen : ∀ p ∈ seen, ∀ s ∈ p.items, s.name ≠ name) (hpage : c.Attempts last es' (.error e)) :
      Search c name token (es ++ es') (.error e)

variable {c : Client} {name : String} {token : Option String} {es es' : List Exchange}

/-- A page without a store of the name comes before a search from the next page on. -/
theorem Search.cons {page : Page Store} {next : String} {r : Except ServiceError (Option Store)}
    (hpage : c.Attempts token es (.ok page)) (hnone : ∀ s ∈ page.items, s.name ≠ name)
    (hnext : page.next = some next) (hne : next ≠ "") (h : c.Search name (some next) es' r) :
    c.Search name token (es ++ es') r := by
  cases h with
  | found hwalk hseen hlast hfirst =>
    rw [← List.append_assoc]
    exact .found (.page hpage hnext hne hwalk) (List.forall_mem_cons.2 ⟨hnone, hseen⟩) hlast hfirst
  | missing hwalk hseen hlast hnone' hend =>
    rw [← List.append_assoc]
    exact .missing (.page hpage hnext hne hwalk) (List.forall_mem_cons.2 ⟨hnone, hseen⟩) hlast
      hnone' hend
  | failed hwalk hseen hlast =>
    rw [← List.append_assoc]
    exact .failed (.page hpage hnext hne hwalk) (List.forall_mem_cons.2 ⟨hnone, hseen⟩) hlast

/-! ## The search of the client -/

/-- How the look-up goes on after the attempts at a page. -/
def afterAttempts (c : Client) (name : String) :
    Except ServiceError (Page Store) → Procedure (Option Store)
  | .error e => .done (.error e)
  | .ok page =>
    match page.items.find? (·.name = name), nextToken page.next with
    | some store, _ => .done (.ok (some store))
    | none, some next => c.findStoreFrom name (some next) 0
    | none, none => .done (.ok none)

/-- The look-up repeats the request for a page, and goes on with what comes of it. -/
theorem repeats_findStoreFrom (c : Client) (name : String) (token : Option String) :
    (c.repetition (c.pageRequest token) decodeStores).Repeats (c.findStoreFrom name token)
      (c.afterAttempts name) := by
  intro failed
  simp only [findStoreFrom, Script.iterate, Script.head, storesRequest_eq]
  congr 1
  funext outcome
  rw [Script.bind_assoc]
  congr 1
  funext b
  rcases b with failed | e | page
  · rfl
  · rfl
  · simp only [afterAttempts]
    cases page.items.find? (·.name = name) with
    | some store => rfl
    | none => cases nextToken page.next <;> rfl

variable {v : Service S} {w w' : Session S} {r : Except ServiceError (Option Store)}

/-- The attempts at a page settle what comes of them, and the look-up goes on with it. -/
theorem exists_attempts (v : Service S) (c : Client) (name : String) (token : Option String)
    (w : Session S) :
    ∃ failed result, v.Fails c token w.service (v.after (c.pageRequest token) w.service failed) ∧
      (∀ page, result = .ok page → received decodeStores
        (v.outcome (c.pageRequest token) w.service failed) = .ok page) ∧
      c.Attempts token (v.exchanges (c.pageRequest token) w.service (failed + 1)) result ∧
      ∀ r w', Script.Ends v.answer (c.findStoreFrom name token 0) w r w' ↔
        Script.Ends v.answer (c.afterAttempts name result)
          (w.extend (v.after (c.pageRequest token) w.service (failed + 1))
            (v.exchanges (c.pageRequest token) w.service (failed + 1))) r w' := by
  obtain ⟨failed, result, hsettles⟩ :=
    (c.repetition (c.pageRequest token) decodeStores).exists_settles
      fun k => received decodeStores (v.outcome (c.pageRequest token) w.service k)
  refine ⟨failed, result, Service.fails_after fun k hk => ?_, fun page hpage => ?_,
    ⟨_, _, rfl, hsettles⟩, fun r w' => ?_⟩
  · obtain ⟨e, he, -⟩ := Http.passes_iff.1 (hsettles.passes_of_lt hk)
    exact ⟨e, he⟩
  · exact hsettles.of_eq_ok hpage
  · rw [← outcome_repetition] at hsettles
    rw [(repeats_findStoreFrom c name token).ends_iff_of_settles hsettles, worlds_repetition,
      ← Service.send_extend]
    rfl

/-- What is left of a list that ends, the client searches page after page. -/
theorem exists_search_from {s : S} (hlist : v.ListEnds c token s) (name : String) (w : Session S)
    (hw : w.service = s) :
    ∃ es r s', Script.Ends v.answer (c.findStoreFrom name token 0) w r (w.extend s' es) ∧
      c.Search name token es r ∧ v.Leads s s' := by
  -- The listing ends, so the search is by induction on the pages that are left.
  induction hlist generalizing w with
  | @page token s _ ih =>
    subst hw
    obtain ⟨failed, result, hfails, hlast, hattempts, hends⟩ := exists_attempts v c name token w
    have hleads : v.Leads w.service (v.after (c.pageRequest token) w.service (failed + 1)) :=
      hfails.leads.tail ⟨_, (Service.after_succ _ _ _ _).symm⟩
    cases result with
    | error e =>
      exact ⟨_, _, _, (hends _ _).2 (Script.ends_done.2 ⟨rfl, rfl⟩),
        .failed (.refl token) (by simp) hattempts, hleads⟩
    | ok page =>
      cases hfind : page.items.find? (·.name = name) with
      | some store =>
        refine ⟨_, _, _, (hends _ _).2 ?_, .found (.refl token) (by simp) hattempts hfind, hleads⟩
        simp only [afterAttempts, hfind]
        exact Script.ends_done.2 ⟨rfl, rfl⟩
      | none =>
        have hnone : ∀ s ∈ page.items, s.name ≠ name := by simpa using hfind
        cases hnext : nextToken page.next with
        | none =>
          refine ⟨_, _, _, (hends _ _).2 ?_,
            .missing (.refl token) (by simp) hattempts hnone (nextToken_eq_none_iff.1 hnext), hleads⟩
          simp only [afterAttempts, hfind, hnext]
          exact Script.ends_done.2 ⟨rfl, rfl⟩
        | some next =>
          obtain ⟨hpage, hne⟩ := nextToken_eq_some_iff.1 hnext
          obtain ⟨es, r, s', hrest, hsearch, hleads'⟩ :=
            ih _ page next hfails (hlast page rfl) hpage hne (w.extend _ _)
              (Service.after_succ _ _ _ _)
          rw [← Service.after_succ] at hleads'
          refine ⟨_, r, s', (hends _ _).2 ?_, hsearch.cons hattempts hnone hpage hne,
            hleads.trans hleads'⟩
          simp only [afterAttempts, hfind, hnext]
          rw [← Session.extend_extend]
          exact hrest

end Client

end PolicySync.TupleService
