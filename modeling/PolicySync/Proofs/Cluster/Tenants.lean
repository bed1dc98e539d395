import Mathlib.Data.List.Sort
import Mathlib.Data.String.Basic
import PolicySync.Cluster.Lister
import PolicySync.Proofs.Fallible
import PolicySync.Proofs.Script.Collecting

/-!
# The names of all tenants

The names of tenants are listed by following the pages of namespaces. A request for such a page is
always the same but for the token (`spacesRequest_eq_ok`). Listing collects the pages
(`collects_tenants`): the outcome is the names on all of them in order, each as often as it came.
-/

namespace PolicySync.Cluster

open Fallible
open Script (Ends recording Follows Collects)

/-- The token of a page that was read is not empty. -/
theorem nextToken_next_of_decodePage {α : Type} {item : Json.Decoder α} {v : Json.Value}
    {page : Page α} (h : decodePage item v = .ok page) : nextToken page.next = page.next := by
  obtain ⟨fields, -, h⟩ := bind_eq_ok.1 h
  obtain ⟨-, -, h⟩ := bind_eq_ok.1 h
  obtain ⟨metadata?, -, h⟩ := bind_eq_ok.1 h
  -- With or without metadata, the items come after the token that was found.
  rcases metadata? with _ | metadata
  all_goals
    obtain ⟨next, -, h⟩ := bind_eq_ok.1 h
    obtain ⟨items?, -, h⟩ := bind_eq_ok.1 h
    cases items? with
    | none => cases h
    | some items =>
      obtain ⟨read, -, h⟩ := bind_eq_ok.1 h
      cases h
      simp [nextToken]

/-- What was received was decoded. -/
theorem received_eq_ok {α : Type} {decode : Json.Decoder α} {outcome : Http.Outcome} {a : α}
    (h : received decode outcome = .ok a) : ∃ v, decode v = .ok a := by
  cases outcome with
  | reply r =>
    rw [received] at h
    split at h
    · cases h
    · split at h
      · cases h
      · exact ⟨_, mapError_eq_ok.1 h⟩
  | timedOut => cases h
  | unreachable => cases h
  | interrupted => cases h

namespace Lister

variable {W : Type u}

/-- The request for the page of namespaces at a token. -/
def spacesAt (l : Lister) (token : Option String) : Http.Request where
  target := "/api/v1/namespaces"
  query := (l.tenantSelector.map ("labelSelector", ·)).toList ++ [("limit", "500")] ++
    (token.map ("continue", ·)).toList

/-- A request for a page of namespaces asks for the one at its token. -/
theorem spacesRequest_eq_ok {l : Lister} {token : Option String} {request : Http.Request}
    (h : l.spacesRequest token = .ok request) : request = l.spacesAt token := by
  cases hrequest : pageRequest? "/api/v1/namespaces" l.tenantSelector namespacePageSize token with
  | none =>
    rw [spacesRequest, hrequest] at h
    cases h
  | some q =>
    rw [spacesRequest, hrequest] at h
    cases h
    obtain ⟨target, htarget, hq⟩ := Option.bind_eq_some_iff.1 hrequest
    cases hq
    rw [Http.Target.of?_eq_some (by simp) htarget]
    rfl

/-- The page of namespaces at a token, as a server has it. A request that is too long to be written
brings none. -/
def spacesPage (l : Lister) (answer : Http.Request → W → Http.Outcome × W) (token : Option String)
    (w : W) : Except ListError (Page (Option String)) × W :=
  match l.spacesRequest token with
  | .error e => (.error e, w)
  | .ok request =>
    ((received (decodePage decodeNamespace) (answer request w).1).mapError .tenants,
      (answer request w).2)

/-- Following the pages of namespaces from a token on, with those seen before. -/
def tenantsFrom (l : Lister) (seen : List (Option String)) (token : Option String) :
    Exchange (Except ListError (List String)) :=
  match l.spacesRequest token with
  | .error e => .done (.error e)
  | .ok request =>
    .iterate (seen.filterMap id, request) (·.2) fun s outcome =>
      match l.namesAfter s.1 outcome with
      | .error e => .done (.inr (.error e))
      | .ok (names, some request) => .done (.inl (names, request))
      | .ok (names, none) => .done (.inr (.ok (names.mergeSort (· ≤ ·))))

theorem tenants_eq (l : Lister) : l.tenants = l.tenantsFrom [] none := rfl

/-- What follows a page of namespaces: the pages from its token on, or the end. -/
def afterSpaces (l : Lister) (seen : List (Option String)) :
    Except ListError (Page (Option String)) → Exchange (Except ListError (List String))
  | .error e => .done (.error e)
  | .ok page =>
    match page.next with
    | some next => l.tenantsFrom (seen ++ page.items) (some next)
    | none => .done (.ok (((seen ++ page.items).filterMap id).mergeSort (· ≤ ·)))

/-- The tenants are asked for page by page. -/
theorem head_tenantsFrom {l : Lister} {token : Option String} {request : Http.Request}
    (hrequest : l.spacesRequest token = .ok request) (seen : List (Option String)) :
    (l.tenantsFrom seen token).head = .ask request fun outcome =>
      l.afterSpaces seen ((received (decodePage decodeNamespace) outcome).mapError .tenants) := by
  simp only [tenantsFrom, hrequest, Script.iterate, Script.head]
  congr 1
  funext outcome
  -- A page may name another one for which there is no request, and then its names are lost too.
  cases hpage : (received (decodePage decodeNamespace) outcome).mapError ListError.tenants with
  | error e =>
    simp only [namesAfter, hpage]
    rfl
  | ok page =>
    cases hnext : page.next with
    | none =>
      simp only [namesAfter, hpage, bind, Except.bind, hnext, pure, Except.pure, afterSpaces,
        List.filterMap_append]
      rfl
    | some next =>
      cases hrest : l.spacesRequest (some next) with
      | error e =>
        simp only [namesAfter, hpage, bind, Except.bind, hnext, hrest, afterSpaces, tenantsFrom]
        rfl
      | ok request =>
        simp only [namesAfter, hpage, bind, Except.bind, hnext, hrest, pure, Except.pure,
          afterSpaces, tenantsFrom, List.filterMap_append]
        rfl

variable {l : Lister} {answer : Http.Request → W → Http.Outcome × W}

/-- The token of a page of namespaces is not empty. -/
theorem nextToken_next_of_spacesPage {token : Option String} {w w' : W}
    {page : Page (Option String)} (h : l.spacesPage answer token w = (.ok page, w')) :
    nextToken page.next = page.next := by
  cases hrequest : l.spacesRequest token with
  | error e =>
    rw [spacesPage, hrequest] at h
    cases h
  | ok request =>
    rw [spacesPage, hrequest] at h
    obtain ⟨v, hv⟩ := received_eq_ok (mapError_eq_ok.1 (Prod.mk.inj h).1)
    exact nextToken_next_of_decodePage hv

/-- Either there is no request for the page of a token, or it is sent and its outcome followed. -/
theorem tenantsFrom_cases (l : Lister) (answer : Http.Request → W → Http.Outcome × W)
    (seen : List (Option String)) (token : Option String) (w : W) (log : List Http.Request) :
    (∃ e, l.spacesPage answer token w = (.error e, w) ∧ l.tenantsFrom seen token = .done (.error e)) ∨
      ∀ r s, Ends (recording answer) (l.tenantsFrom seen token) (w, log) r s ↔
        Ends (recording answer) (l.afterSpaces seen (l.spacesPage answer token w).1)
          ((l.spacesPage answer token w).2, log ++ [l.spacesAt token]) r s := by
  cases hrequest : l.spacesRequest token with
  | error e => exact .inl ⟨e, by rw [spacesPage, hrequest], by rw [tenantsFrom, hrequest]⟩
  | ok request =>
    obtain rfl := spacesRequest_eq_ok hrequest
    rw [spacesPage, hrequest]
    exact .inr fun r s => Script.ends_of_head_ask (head_tenantsFrom hrequest seen)

/-- Listing the tenants follows the pages of namespaces. -/
theorem follows_tenantsFrom : Follows answer (l.spacesPage answer) l.spacesAt l.tenantsFrom
    fun seen => (seen.filterMap id).mergeSort (· ≤ ·) where
  last {seen token w w' log page} hpage hnext := by
    rcases tenantsFrom_cases l answer seen token w log with ⟨e, hfailed, -⟩ | hsent
    · rw [hfailed] at hpage
      cases hpage
    · rw [hsent, hpage, afterSpaces, ← nextToken_next_of_spacesPage hpage, hnext]
      exact Script.ends_done.2 ⟨rfl, rfl⟩
  more {seen token w w' log page next r s} hpage hnext hrest := by
    rcases tenantsFrom_cases l answer seen token w log with ⟨e, hfailed, -⟩ | hsent
    · rw [hfailed] at hpage
      cases hpage
    · rw [hsent, hpage, afterSpaces, ← nextToken_next_of_spacesPage hpage, hnext]
      exact hrest
  failed {token w w' e} hpage seen log := by
    rcases tenantsFrom_cases l answer seen token w log with ⟨e', hfailed, hdone⟩ | hsent
    · rw [hfailed] at hpage
      cases hpage
      rw [hdone]
      exact ⟨[], List.nil_prefix, Script.ends_done.2 ⟨rfl, by rw [List.append_nil]⟩⟩
    · refine ⟨[l.spacesAt token], List.prefix_rfl, ?_⟩
      rw [hsent, hpage]
      exact Script.ends_done.2 ⟨rfl, rfl⟩

/-- Listing the tenants collects the names on all pages of namespaces, in order. -/
theorem collects_tenants : Collects answer (l.spacesPage answer) l.spacesAt l.tenants
    fun spaces names => names.Pairwise (· ≤ ·) ∧ names.Perm (spaces.filterMap id) := by
  rw [tenants_eq]
  exact follows_tenantsFrom.collects fun spaces =>
    ⟨List.pairwise_mergeSort' (· ≤ ·) _, List.mergeSort_perm _ _⟩

end Lister

end PolicySync.Cluster
