import PolicySync.Proofs.Memory.Desired
import PolicySync.Proofs.Pass.Phases

/-!
# What the listed resources of a tenant ask for

A lister hands out the resources of a kind in pages of its own making: it may choose their sizes, leave
some empty, and name the next one by any token. `Listing` says which resources the pages hold that a
pass gets when it follows the tokens from kind to kind. The desired tuples depend on those resources
only, and as a set on neither their order nor their number; if one of them has no valid tuples, the
pass names the first such (`ends_desiredTuples`).
-/

namespace PolicySync.Pass

open Fallible
open Script (Ends)

variable {W : Type u} {answer : (q : Request) → W → q.Answer × W} {settings : PassSettings}
  {tenant : String} {snapshot : Snapshot} {w w' w₁ : W}

/-- The pages of a kind from a token on, and the world after them: each is answered in full, and the
last one names no other. -/
inductive Paging (answer : (q : Request) → W → q.Answer × W) (settings : PassSettings)
    (tenant : String) (kind : ResourceKind) : Option String → W → List Resource → W → Prop where
  | last {token : Option String} {page : Page Resource} {w w₁ : W}
      (hanswer : answer (resourcesRequest settings tenant kind token) w = (.answered (.ok page), w₁))
      (hnext : nextToken page.next = none) : Paging answer settings tenant kind token w page.items w₁
  | more {token : Option String} {page : Page Resource} {t : String} {rest : List Resource}
      {w w₁ w' : W}
      (hanswer : answer (resourcesRequest settings tenant kind token) w = (.answered (.ok page), w₁))
      (hnext : nextToken page.next = some t)
      (hrest : Paging answer settings tenant kind (some t) w₁ rest w') :
      Paging answer settings tenant kind token w (page.items ++ rest) w'

/-- The resources of some kinds, kind by kind as they are listed, and the world after them. -/
inductive Listing (answer : (q : Request) → W → q.Answer × W) (settings : PassSettings)
    (tenant : String) : List ResourceKind → W → List Resource → W → Prop where
  | nil {w : W} : Listing answer settings tenant [] w [] w
  | cons {kind : ResourceKind} {kinds : List ResourceKind} {rs rest : List Resource} {w w₁ w' : W}
      (hkind : Paging answer settings tenant kind none w rs w₁)
      (hrest : Listing answer settings tenant kinds w₁ rest w') :
      Listing answer settings tenant (kind :: kinds) w (rs ++ rest) w'

/-- A page of resources is taken in resource by resource. -/
theorem absorbResources_answered (desired : TupleSet) (token : Option String)
    (page : Page Resource) :
    absorbResources settings snapshot desired token (.answered (.ok page)) =
      (page.items.foldlM (addDesired snapshot.resolved) desired).map fun out =>
        (out, nextToken page.next) := by
  show (page.items.foldlM (addDesired snapshot.resolved) desired >>= fun out =>
    pure (out, nextToken page.next)) = _
  rw [bind_pure_comp]
  rfl

/-- A page is taken in, and the one that it names follows. -/
private theorem ends_page {kind : ResourceKind} {token : Option String} {page : Page Resource}
    (hanswer : answer (resourcesRequest settings tenant kind token) w = (.answered (.ok page), w₁))
    {desired : TupleSet} {r : Except PassError TupleSet} :
    Ends answer (pagesFrom (resourcesRequest settings tenant kind)
        (absorbResources settings snapshot) desired token) w r w' ↔
      match page.items.foldlM (addDesired snapshot.resolved) desired with
      | .error e => r = .error e ∧ w' = w₁
      | .ok out =>
        match nextToken page.next with
        | none => r = .ok out ∧ w' = w₁
        | some t => Ends answer (pagesFrom (resourcesRequest settings tenant kind)
            (absorbResources settings snapshot) out (some t)) w₁ r w' := by
  rw [ends_pagesFrom, hanswer, absorbResources_answered]
  cases page.items.foldlM (addDesired snapshot.resolved) desired with
  | error e => rfl
  | ok out => cases nextToken page.next <;> rfl

/-- Following the pages of a kind takes in their resources one by one, and stops at the first one that
cannot be taken in. -/
theorem Paging.ends {kind : ResourceKind} {token : Option String} {rs : List Resource}
    (h : Paging answer settings tenant kind token w rs w') (snapshot : Snapshot)
    (desired : TupleSet) :
    (∀ out, rs.foldlM (addDesired snapshot.resolved) desired = .ok out →
      Ends answer (pagesFrom (resourcesRequest settings tenant kind)
        (absorbResources settings snapshot) desired token) w (.ok out) w') ∧
    ∀ e, rs.foldlM (addDesired snapshot.resolved) desired = .error e →
      ∃ w₂, Ends answer (pagesFrom (resourcesRequest settings tenant kind)
        (absorbResources settings snapshot) desired token) w (.error e) w₂ := by
  induction h generalizing desired with
  | @last token page w w₁ hanswer hnext =>
    constructor
    · intro out hout
      rw [ends_page hanswer, hout, hnext]
      exact ⟨rfl, rfl⟩
    · intro e he
      refine ⟨w₁, ?_⟩
      rw [ends_page hanswer, he]
      exact ⟨rfl, rfl⟩
  | @more token page t rest w w₁ w' hanswer hnext _ ih =>
    simp only [List.foldlM_append, ends_page hanswer, hnext]
    cases page.items.foldlM (addDesired snapshot.resolved) desired with
    | error e =>
      constructor
      · intro out hout
        cases hout
      · intro e' he'
        cases he'
        exact ⟨w₁, rfl, rfl⟩
    | ok out => exact ih out

/-- Going through several kinds takes in their resources one by one. -/
theorem Listing.ends {kinds : List ResourceKind} {rs : List Resource}
    (h : Listing answer settings tenant kinds w rs w') (snapshot : Snapshot) (desired : TupleSet) :
    (∀ out, rs.foldlM (addDesired snapshot.resolved) desired = .ok out →
      Ends answer (desiredOfKinds settings tenant snapshot kinds desired) w (.ok out) w') ∧
    ∀ e, rs.foldlM (addDesired snapshot.resolved) desired = .error e →
      ∃ w₂, Ends answer (desiredOfKinds settings tenant snapshot kinds desired) w (.error e) w₂ := by
  induction h generalizing desired with
  | nil =>
    constructor
    · intro out hout
      exact ends_of.2 ⟨hout.symm, rfl⟩
    · intro e he
      cases he
  | @cons kind kinds rs rest w w₁ w' hkind _ ih =>
    -- The pages of a kind are taken in as a whole, and the next kinds start from there.
    obtain ⟨hok, herror⟩ := hkind.ends snapshot desired
    rw [List.foldlM_append]
    cases hfold : rs.foldlM (addDesired snapshot.resolved) desired with
    | error e =>
      obtain ⟨w₂, hends⟩ := herror e hfold
      constructor
      · intro out hout
        cases hout
      · intro e' he'
        cases he'
        exact ⟨w₂, ends_andThen_of_error _ hends⟩
    | ok mid =>
      have hends := hok mid hfold
      obtain ⟨hok', herror'⟩ := ih mid
      constructor
      · intro out hout
        exact ends_andThen_of_ok hends (hok' out hout)
      · intro e he
        obtain ⟨w₂, hrest⟩ := herror' e he
        exact ⟨w₂, ends_andThen_of_ok hends hrest⟩

/-- The first resource without valid tuples keeps resources from being taken in. -/
theorem foldlM_addDesired_eq_error {resolved : ResolvedRoles} {before after : List Resource}
    {r : Resource} {e : PolicyError}
    (hbefore : ∀ b ∈ before, ∃ ts, b.validTuples (some resolved) = .ok ts)
    (hr : r.validTuples (some resolved) = .error e) (desired : TupleSet) :
    (before ++ r :: after).foldlM (addDesired resolved) desired =
      .error (.policy r.kind r.name e) := by
  obtain ⟨tuples, htuples⟩ := exists_mapM_eq_ok_iff.2 hbefore
  have hfold : before.foldlM (addDesired resolved) desired =
      .ok (TupleSet.insertTuples desired tuples.flatten) :=
    foldlM_addDesired_eq_ok_iff.2 ⟨tuples, htuples, rfl⟩
  have hadd : ∀ desired, addDesired resolved desired r = .error (.policy r.kind r.name e) := by
    intro desired
    rw [addDesired, hr]
  rw [List.foldlM_append, hfold]
  show (r :: after).foldlM (addDesired resolved) _ = _
  rw [List.foldlM_cons, hadd]
  rfl

/-- The desired tuples are those of the snapshot with those of all resources, if these are sound. -/
theorem ends_desiredTuples_ok_iff {rs : List Resource}
    (h : Listing answer settings tenant ResourceKind.namespaced w rs w') {desired : TupleSet} :
    Ends answer (desiredTuples settings tenant snapshot) w (.ok desired) w₁ ↔
      w₁ = w' ∧ ∃ tuples,
        rs.mapM (fun r => r.validTuples (some snapshot.resolved)) = .ok tuples ∧
          desired = TupleSet.insertTuples (.ofTuples snapshot.tuples) tuples.flatten := by
  obtain ⟨hok, herror⟩ := h.ends snapshot (.ofTuples snapshot.tuples)
  rw [← foldlM_addDesired_eq_ok_iff]
  constructor
  · intro hends
    cases hfold : rs.foldlM (addDesired snapshot.resolved) (.ofTuples snapshot.tuples) with
    | error e =>
      obtain ⟨w₂, hfail⟩ := herror e hfold
      cases (hends.unique hfail).1
    | ok out =>
      obtain ⟨heq, rfl⟩ := hends.unique (hok out hfold)
      exact ⟨rfl, heq.symm⟩
  · rintro ⟨rfl, hfold⟩
    exact hok desired hfold

/-- Tuples of resources that are put in depend on neither the order nor the number of the
resources. -/
theorem insertTuples_flatten_congr {resolved : Option ResolvedRoles} {rs rs' : List Resource}
    {tuples tuples' : List (List Tuple)} (h : rs.mapM (fun r => r.tuples resolved) = .ok tuples)
    (h' : rs'.mapM (fun r => r.tuples resolved) = .ok tuples') (hsame : ∀ r, r ∈ rs' ↔ r ∈ rs)
    (s : TupleSet) :
    TupleSet.insertTuples s tuples'.flatten = TupleSet.insertTuples s tuples.flatten := by
  have hmem : ∀ t, t ∈ tuples'.flatten ↔ t ∈ tuples.flatten := by
    intro t
    rw [mem_flatten_of_mapM_eq_ok h, mem_flatten_of_mapM_eq_ok h']
    simp only [hsame]
  have hplain : ∀ t ∈ tuples.flatten, t.Plain := by
    intro t ht
    obtain ⟨r, -, ts, hts, ht⟩ := (mem_flatten_of_mapM_eq_ok h).1 ht
    exact Resource.tuples_plain hts t ht
  refine SortedMap.ext_get? fun k => ?_
  rw [TupleSet.get?_insertTuples_of_plain hplain,
    TupleSet.get?_insertTuples_of_plain fun t ht => hplain t ((hmem t).1 ht)]
  simp only [hmem]

/-- Whatever pages a tenant's resources come in, the desired tuples are found just when all of them
are sound. Their keys are then those of the snapshot and of the resources, and any other listing of the
same resources, in other pages, another order or several times, leads to the same tuples. Otherwise the
pass can only fail, with the first resource that is not sound. -/
theorem ends_desiredTuples {rs : List Resource}
    (h : Listing answer settings tenant ResourceKind.namespaced w rs w') (snapshot : Snapshot) :
    ((∃ desired w₁, Ends answer (desiredTuples settings tenant snapshot) w (.ok desired) w₁) ↔
      ∀ r ∈ rs, r.IsSound (some snapshot.resolved)) ∧
    (∀ desired w₁, Ends answer (desiredTuples settings tenant snapshot) w (.ok desired) w₁ →
      (∀ k, desired.contains k = true ↔ (∃ t ∈ snapshot.tuples, t.key = k) ∨
        ∃ r ∈ rs, ∃ ts, r.tuples (some snapshot.resolved) = .ok ts ∧ ∃ t ∈ ts, t.key = k) ∧
      ∀ {W₂ : Type u} {answer₂ : (q : Request) → W₂ → q.Answer × W₂} {settings₂ : PassSettings}
        {tenant₂ : String} {v v' : W₂} {rs₂ : List Resource},
        Listing answer₂ settings₂ tenant₂ ResourceKind.namespaced v rs₂ v' →
        (∀ r, r ∈ rs₂ ↔ r ∈ rs) →
        Ends answer₂ (desiredTuples settings₂ tenant₂ snapshot) v (.ok desired) v') ∧
    ((¬ ∀ r ∈ rs, r.IsSound (some snapshot.resolved)) →
      ∃ before r after e, rs = before ++ r :: after ∧
        (∀ b ∈ before, b.IsSound (some snapshot.resolved)) ∧
        r.validTuples (some snapshot.resolved) = .error e ∧
        ∀ result, (∃ w₁, Ends answer (desiredTuples settings tenant snapshot) w result w₁) ↔
          result = .error (.policy r.kind r.name e)) := by
  simp only [Resource.isSound_iff]
  refine ⟨?_, fun desired w₁ hends => ⟨fun k => ?_, fun hother hsame => ?_⟩, fun hunsound => ?_⟩
  · rw [← exists_mapM_eq_ok_iff]
    constructor
    · rintro ⟨desired, w₁, hends⟩
      obtain ⟨-, tuples, htuples, -⟩ := (ends_desiredTuples_ok_iff h).1 hends
      exact ⟨tuples, htuples⟩
    · rintro ⟨tuples, htuples⟩
      exact ⟨_, w', (ends_desiredTuples_ok_iff h).2 ⟨rfl, tuples, htuples, rfl⟩⟩
  · obtain ⟨-, tuples, hvalid, rfl⟩ := (ends_desiredTuples_ok_iff h).1 hends
    have htuples := mapM_eq_ok_of_imp hvalid fun _ _ => Resource.tuples_of_validTuples
    rw [TupleSet.contains_insertTuples, TupleSet.ofTuples, TupleSet.contains_insertTuples,
      SortedMap.contains_empty, or_iff_right Bool.false_ne_true]
    refine or_congr_right ?_
    simp only [mem_flatten_of_mapM_eq_ok htuples]
    constructor
    · rintro ⟨t, ⟨r, hr, ts, hts, ht⟩, hkey⟩
      exact ⟨r, hr, ts, hts, t, ht, hkey⟩
    · rintro ⟨r, hr, ts, hts, t, ht, hkey⟩
      exact ⟨t, ⟨r, hr, ts, hts, ht⟩, hkey⟩
  · obtain ⟨-, tuples, hvalid, rfl⟩ := (ends_desiredTuples_ok_iff h).1 hends
    have hall := exists_mapM_eq_ok_iff.1 ⟨tuples, hvalid⟩
    obtain ⟨tuples₂, hvalid₂⟩ := exists_mapM_eq_ok_iff.2 fun r hr => hall r ((hsame r).1 hr)
    refine (ends_desiredTuples_ok_iff hother).2 ⟨rfl, tuples₂, hvalid₂, ?_⟩
    exact (insertTuples_flatten_congr
      (mapM_eq_ok_of_imp hvalid fun _ _ => Resource.tuples_of_validTuples)
      (mapM_eq_ok_of_imp hvalid₂ fun _ _ => Resource.tuples_of_validTuples) hsame _).symm
  -- The pass takes the resources one by one, so it stops at the first that is not sound.
  · obtain ⟨before, r, after, e, rfl, hbefore, hr⟩ := exists_first_error hunsound
    obtain ⟨w₂, hfail⟩ := (h.ends snapshot _).2 _ (foldlM_addDesired_eq_error hbefore hr _)
    refine ⟨before, r, after, e, rfl, hbefore, hr, fun result => ⟨?_, ?_⟩⟩
    · rintro ⟨w₁, hends⟩
      exact (hends.unique hfail).1
    · rintro rfl
      exact ⟨w₂, hfail⟩

/-- A folder below another one. -/
def folderBelow (parent name : String) : Resource where
  metadata := { name, tenant := some "office" }
  spec := .folder (some parent)

/-- A lister with three pages of folders, the middle one of them empty and the last one with an empty
token. -/
def folderLister : (q : Request) → Nat → q.Answer × Nat
  | .call (.list .folder _ _ token) _, n =>
    match token with
    | none => (.answered (.ok { items := [folderBelow "a" "b"], next := some "2nd" }), n + 1)
    | some "2nd" => (.answered (.ok { items := [], next := some "3rd" }), n + 1)
    | some _ => (.answered (.ok { items := [folderBelow "b" "c"], next := some "" }), n + 1)
  | .call (.list _ _ _ _) _, n => (.answered (.ok { items := [] }), n + 1)
  | .call _ _, n => (.timedOut, n)
  | .publish _, n => ((), n)

/-- Both folders are found, one on either side of an empty page. -/
theorem ends_desiredTuples_folders :
    ∃ desired, Ends folderLister (desiredTuples {} "office" {}) 0 (.ok desired) 9 ∧
      desired.contains ⟨"folder:b", "parent", "folder:c"⟩ = true := by
  have hfirst : folderLister (resourcesRequest {} "office" .folder none) 0 =
    (.answered (.ok { items := [folderBelow "a" "b"], next := some "2nd" }), 1) := rfl
  have hsecond : folderLister (resourcesRequest {} "office" .folder (some "2nd")) 1 =
    (.answered (.ok { items := [], next := some "3rd" }), 2) := rfl
  have hthird : folderLister (resourcesRequest {} "office" .folder (some "3rd")) 2 =
    (.answered (.ok { items := [folderBelow "b" "c"], next := some "" }), 3) := rfl
  have hfolders : Paging folderLister {} "office" .folder none 0
      [folderBelow "a" "b", folderBelow "b" "c"] 3 :=
    .more hfirst rfl (.more hsecond rfl (.last hthird rfl))
  have hempty : ∀ kind ≠ .folder, ∀ n, Paging folderLister {} "office" kind none n [] (n + 1) := by
    intro kind hkind n
    have hanswer : folderLister (resourcesRequest {} "office" kind none) n =
        (.answered (.ok { items := [] }), n + 1) := by
      cases kind with
      | folder => exact absurd rfl hkind
      | _ => rfl
    exact .last hanswer rfl
  have hlisting : Listing folderLister {} "office" ResourceKind.namespaced 0
      [folderBelow "a" "b", folderBelow "b" "c"] 9 :=
    .cons hfolders <| .cons (hempty _ (by decide) 3) <| .cons (hempty _ (by decide) 4) <|
      .cons (hempty _ (by decide) 5) <| .cons (hempty _ (by decide) 6) <|
      .cons (hempty _ (by decide) 7) <| .cons (hempty _ (by decide) 8) .nil
  have hb : (folderBelow "a" "b").tuples (some (Snapshot.resolved {})) =
    .ok [.relate "folder:a" "parent" "folder:b"] := rfl
  have hc : (folderBelow "b" "c").tuples (some (Snapshot.resolved {})) =
    .ok [.relate "folder:b" "parent" "folder:c"] := rfl
  obtain ⟨hok, hfound, -⟩ := ends_desiredTuples hlisting {}
  obtain ⟨desired, w₁, hends⟩ := hok.2 (List.forall_mem_cons.2
    ⟨⟨_, hb, List.forall_mem_singleton.2 rfl⟩, List.forall_mem_singleton.2
      ⟨_, hc, List.forall_mem_singleton.2 rfl⟩⟩)
  obtain ⟨hkeys, hagain⟩ := hfound desired w₁ hends
  refine ⟨desired, hagain hlisting fun _ => .rfl, (hkeys _).2 (.inr ?_)⟩
  exact ⟨folderBelow "b" "c", by simp, _, hc, _, List.mem_singleton_self _, rfl⟩

end PolicySync.Pass
