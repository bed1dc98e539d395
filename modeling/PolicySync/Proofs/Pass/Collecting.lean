import PolicySync.Proofs.Cluster.Tenants
import PolicySync.Proofs.Pass.Survey

/-!
# Every page is followed

Reading a store and listing the tenants go through pages that come from outside, in whatever number
and shape and under whatever tokens. Both collect them (`every_page_followed`): no page is left out,
read twice or asked for in another way than the page before says, and without one of them there is no
outcome at all.
-/

namespace PolicySync.Pass

open Script (Ends recording Follows Collects)

variable {W : Type u}

/-- The page of stored tuples at a token. There is none if the call fails, takes too long or is given
up because the pass is cancelled. -/
def storedPage (settings : PassSettings) (store : String)
    (answer : (q : Request) → W → q.Answer × W) (token : Option String) (w : W) :
    Except PassError (Page Tuple) × W :=
  (settle .readPage settings.pageTimeout .store (answer (tuplesRequest settings store token) w).1,
    (answer (tuplesRequest settings store token) w).2)

variable {settings : PassSettings} {store : String} {answer : (q : Request) → W → q.Answer × W}

/-- A page that is there is taken in after the tuples seen before. -/
theorem absorbTuples_of_storedPage {token : Option String} {w w' : W} {page : Page Tuple}
    (h : storedPage settings store answer token w = (.ok page, w')) (seen : List Tuple) :
    absorbTuples settings (TupleSet.ofTuples seen) token
        (answer (tuplesRequest settings store token) w).1 =
      .ok (TupleSet.ofTuples (seen ++ page.items), nextToken page.next) := by
  rw [absorbTuples, (Prod.mk.inj h).1, TupleSet.ofTuples_append]
  rfl

/-- A page that is not read is not taken in. -/
theorem absorbTuples_of_storedPage_eq_error {token : Option String} {w w' : W} {e : PassError}
    (h : storedPage settings store answer token w = (.error e, w')) (seen : TupleSet) :
    absorbTuples settings seen token (answer (tuplesRequest settings store token) w).1 = .error e := by
  rw [absorbTuples, (Prod.mk.inj h).1]
  rfl

/-- Reading a store follows its pages. -/
theorem follows_actualTuples : Follows answer (storedPage settings store answer)
    (tuplesRequest settings store)
    (fun seen token => pagesFrom (tuplesRequest settings store) (absorbTuples settings)
      (TupleSet.ofTuples seen) token) TupleSet.ofTuples where
  last {seen token w w' log page} hpage hnext := by
    refine ends_pagesFrom.2 ?_
    rw [recording, absorbTuples_of_storedPage hpage, hnext, (Prod.mk.inj hpage).2]
    exact ⟨rfl, rfl⟩
  more {seen token w w' log page next r s} hpage hnext hrest := by
    refine ends_pagesFrom.2 ?_
    rw [recording, absorbTuples_of_storedPage hpage, hnext, (Prod.mk.inj hpage).2]
    exact hrest
  failed {token w w' e} hpage seen log := by
    refine ⟨[tuplesRequest settings store token], List.prefix_rfl, ends_pagesFrom.2 ?_⟩
    rw [recording, absorbTuples_of_storedPage_eq_error hpage, (Prod.mk.inj hpage).2]
    exact ⟨rfl, rfl⟩

/-- Reading a store collects the tuples on all of its pages, the last one of each key. -/
theorem collects_actualTuples : Collects answer (storedPage settings store answer)
    (tuplesRequest settings store) (actualTuples settings store)
    fun tuples set => ∀ k, set.get? k = (tuples.filter fun t => t.key = k).getLast? := by
  rw [actualTuples_eq]
  exact follows_actualTuples.collects TupleSet.get?_ofTuples

/-- Reading a store, and listing the tenants, asks for every page in turn and for no other. What is
read from a store are the tuples on all pages, the last one of each key; what is listed are the names
on all pages, in order. Without one of the pages there is an error. -/
theorem every_page_followed {W W' : Type u} (settings : PassSettings) (store : String)
    (answer : (q : Request) → W → q.Answer × W) (l : Cluster.Lister)
    (server : Http.Request → W' → Http.Outcome × W') :
    Collects answer (storedPage settings store answer) (tuplesRequest settings store)
        (actualTuples settings store)
        (fun tuples set => ∀ k, set.get? k = (tuples.filter fun t => t.key = k).getLast?) ∧
      Collects server (l.spacesPage server) l.spacesAt l.tenants
        fun spaces names => names.Pairwise (· ≤ ·) ∧ names.Perm (spaces.filterMap id) :=
  ⟨collects_actualTuples, Cluster.Lister.collects_tenants⟩

section Guests

/-- The pages of a guest book. The middle one is empty, and Ann is on two pages. -/
def guestPages : Option String → Option (Page Tuple)
  | none => some {
      items := [.relate "user:ann" "viewer" "book:1", .relate "user:bob" "viewer" "book:1"]
      next := some "%&=" }
  | some "%&=" => some { items := [], next := some "7" }
  | some "7" => some {
      items := [{ Tuple.relate "user:ann" "viewer" "book:1" with
        condition := some { name := "by_day" } }]
      next := some "" }
  | some _ => none

/-- A store with some pages. Reading another one is cancelled. -/
def storeOfPages (known : Option String → Option (Page Tuple)) (q : Request) (_ : Unit) :
    q.Answer × Unit :=
  match q with
  | .call (.read _ _ token) _ =>
    match known token with
    | some page => (.answered (.ok page), ())
    | none => (.cancelled, ())
  | .call _ _ => (.timedOut, ())
  | .publish _ => ((), ())

/-- A lister for all namespaces. -/
def town : Cluster.Lister where
  group := ""
  version := "v1"

/-- The namespaces of a town on two pages, with one that has no name. -/
def townServer (q : Http.Request) (_ : Unit) : Http.Outcome × Unit :=
  let page (next : String) (spaces : List Json.Value) : Json.Value :=
    .object [("metadata", .object [("continue", .str next)]), ("items", .list spaces)]
  let space (name : String) : Json.Value := .object [("metadata", .object [("name", .str name)])]
  (.reply {
    status := 200
    json := some (match q.query.lookup "continue" with
      | none => page "rest" [space "zoo"]
      | some _ => page "" [space "ape", .object []]) }, ())

/-- Three pages of guests are read to the end, without the last of them none is, and a town has the
named spaces of both its pages. -/
theorem every_page_followed_guests :
    (∃ set, Ends (recording (storeOfPages guestPages)) (actualTuples {} "store-001") ((), [])
        (.ok set) ((), [none, some "%&=", some "7"].map (tuplesRequest {} "store-001")) ∧
      set.get? ⟨"user:ann", "viewer", "book:1"⟩ =
        some { Tuple.relate "user:ann" "viewer" "book:1" with
          condition := some { name := "by_day" } } ∧
      set.get? ⟨"user:bob", "viewer", "book:1"⟩ = some (.relate "user:bob" "viewer" "book:1")) ∧
    (∃ requests, Ends
      (recording (storeOfPages fun token => if token = some "7" then none else guestPages token))
      (actualTuples {} "store-001") ((), []) (.error .cancelled) ((), requests)) ∧
    ∃ names, Ends (recording townServer) town.tenants ((), []) (.ok names)
        ((), [none, some "rest"].map town.spacesAt) ∧ names.Perm ["zoo", "ape"] := by
  have hpages := every_page_followed {} "store-001" (storeOfPages guestPages) town townServer
  have hcut := (every_page_followed {} "store-001"
    (storeOfPages fun token => if token = some "7" then none else guestPages token) town
    townServer).1
  refine ⟨?_, ?_, ?_⟩
  · obtain ⟨set, hends, hset⟩ := hpages.1.complete (.more rfl rfl (.more rfl rfl (.last rfl rfl)))
    exact ⟨set, hends, hset _, hset _⟩
  · obtain ⟨requests, hends, -⟩ := hcut.failed (.more rfl rfl (.more rfl rfl (.failed rfl)))
    exact ⟨requests, hends⟩
  · obtain ⟨names, hends, -, hnames⟩ := hpages.2.complete (.more rfl rfl (.last rfl rfl))
    exact ⟨names, hends, hnames⟩

end Guests

end PolicySync.Pass
