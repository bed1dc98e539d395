import PolicySync.Proofs.Pass.Pages
import PolicySync.Proofs.Role.Snapshot

/-!
# Building the snapshot from pages

A lister hands out the global roles in pages of its own making, as it does with the resources of a
tenant. `RolePaging` says which roles the pages hold that a pass gets when it follows the tokens.
Whatever the pages are, the snapshot is that of the roles by name, and if there is none, the pass
can only fail, with the reason that the roles give (`ends_buildSnapshot`).
-/

namespace PolicySync.Pass

open Fallible
open Script (Ends)

variable {W : Type u} {answer : (q : Request) → W → q.Answer × W} {settings : PassSettings}
  {w w' w₁ : W}

/-- The request for a page of global roles. -/
abbrev rolesRequest (settings : PassSettings) (token : Option String) : Request :=
  .call (.list .globalRole none settings.listPageSize token) settings.pageTimeout

/-- The roles with those of a page. -/
def absorbRoles (settings : PassSettings) (roles : Roles) (_ : Option String)
    (answer : Verdict (Except ListError (Page Resource))) :
    Except PassError (Roles × Option String) := do
  let page ← settle .listPage settings.pageTimeout .list answer
  return (← page.items.foldlM Snapshot.addRole roles, nextToken page.next)

/-- The global roles are read page by page. -/
theorem globalRoles_eq (settings : PassSettings) : globalRoles settings =
    pagesFrom (rolesRequest settings) (absorbRoles settings) SortedMap.empty none :=
  rfl

/-- The pages of global roles from a token on, and the world after them: each is answered in full,
and the last one names no other. -/
inductive RolePaging (answer : (q : Request) → W → q.Answer × W) (settings : PassSettings) :
    Option String → W → List Resource → W → Prop where
  | last {token : Option String} {page : Page Resource} {w w₁ : W}
      (hanswer : answer (rolesRequest settings token) w = (.answered (.ok page), w₁))
      (hnext : nextToken page.next = none) : RolePaging answer settings token w page.items w₁
  | more {token : Option String} {page : Page Resource} {t : String} {rest : List Resource}
      {w w₁ w' : W}
      (hanswer : answer (rolesRequest settings token) w = (.answered (.ok page), w₁))
      (hnext : nextToken page.next = some t)
      (hrest : RolePaging answer settings (some t) w₁ rest w') :
      RolePaging answer settings token w (page.items ++ rest) w'

/-- A page of global roles is put in by name. -/
theorem absorbRoles_answered {page : Page Resource} (hpage : ∀ r ∈ page.items, r.kind = .globalRole)
    (roles : Roles) (token : Option String) :
    absorbRoles settings roles token (.answered (.ok page)) =
      .ok (roles.insertMany (page.items.filterMap Resource.roleEntry?), nextToken page.next) := by
  refine bind_eq_ok.2 ⟨page, rfl, bind_eq_ok.2 ⟨_, ?_, rfl⟩⟩
  exact Snapshot.foldlM_addRole_eq_ok_iff.2 ⟨hpage, rfl⟩

/-- Following the pages of global roles puts all of them in by name. -/
theorem RolePaging.ends {token : Option String} {rs : List Resource}
    (h : RolePaging answer settings token w rs w') (hrs : ∀ r ∈ rs, r.kind = .globalRole)
    (roles : Roles) :
    Ends answer (pagesFrom (rolesRequest settings) (absorbRoles settings) roles token) w
      (.ok (roles.insertMany (rs.filterMap Resource.roleEntry?))) w' := by
  induction h generalizing roles with
  | last hanswer hnext =>
    rw [ends_pagesFrom, hanswer, absorbRoles_answered hrs, hnext]
    exact ⟨rfl, rfl⟩
  | more hanswer hnext _ ih =>
    rw [List.forall_mem_append] at hrs
    rw [ends_pagesFrom, hanswer, absorbRoles_answered hrs.1, hnext, List.filterMap_append,
      SortedMap.insertMany_append]
    exact ih hrs.2 _

/-- From the pages of global roles, the snapshot of the roles by name is built. -/
theorem ends_buildSnapshot_iff {rs : List Resource} (h : RolePaging answer settings none w rs w')
    (hrs : ∀ r ∈ rs, r.kind = .globalRole) {result : Except PassError Snapshot} :
    Ends answer (buildSnapshot settings) w result w₁ ↔
      result = Snapshot.ofRoles (.ofResources rs) ∧ w₁ = w' := by
  have hends : Ends answer (buildSnapshot settings) w (Snapshot.ofRoles (.ofResources rs)) w' :=
    ends_andThen_of_ok (h.ends hrs SortedMap.empty) (ends_of.2 ⟨rfl, rfl⟩)
  constructor
  · exact fun hother => hother.unique hends
  · rintro ⟨rfl, rfl⟩
    exact hends

/-- However the global roles are paged, the last one of a name counts, and there is a snapshot just
when the roles by name are resolved and have grants, all of which fit the model. It is made of these. If no role lacks a name, the
grants are the tuples that the roles stand for, in the order of names. Otherwise the pass can only
fail, because the roles cannot be resolved, or with the first role by name whose grants fail. -/
theorem ends_buildSnapshot {rs : List Resource} (h : RolePaging answer settings none w rs w')
    (hrs : ∀ r ∈ rs, r.kind = .globalRole) :
    (∀ name, ((Roles.ofResources rs).get? name).map .globalRole =
      (rs.filter fun r => r.name = name).getLast?.map (·.spec)) ∧
    (∀ snapshot, (∃ w₁, Ends answer (buildSnapshot settings) w (.ok snapshot) w₁) ↔
      resolve (.ofResources rs) = .ok snapshot.resolved ∧
        clusterTuples snapshot.resolved = .ok snapshot.tuples ∧
        ∀ t ∈ snapshot.tuples, Schema.validate t = .ok ()) ∧
    (∀ snapshot w₁, Ends answer (buildSnapshot settings) w (.ok snapshot) w₁ →
      (∀ r ∈ rs, r.name ≠ "") →
      ∃ tss, (Roles.ofResources rs).toList.Forall₂ (fun e ts => ∀ r : Resource, r.name = e.1 →
        r.spec = .globalRole e.2 → r.tuples (some snapshot.resolved) = .ok ts) tss ∧
        tss.flatten = snapshot.tuples) ∧
    (∀ e, resolve (.ofResources rs) = .error e → ∀ result,
      (∃ w₁, Ends answer (buildSnapshot settings) w result w₁) ↔ result = .error (.resolve e)) ∧
    ∀ resolved, resolve (.ofResources rs) = .ok resolved →
      (¬ ∃ ts, clusterTuples resolved = .ok ts ∧ ∀ t ∈ ts, Schema.validate t = .ok ()) →
      ∃ before name permissions after source,
        resolved.toList = before ++ (name, permissions) :: after ∧
        (∀ b ∈ before, ∃ ts, roleGrants b.1 b.2 = .ok ts ∧
          ∀ t ∈ ts, Schema.validate t = .ok ()) ∧
        Snapshot.GrantsFail name permissions source ∧
        ∀ result, (∃ w₁, Ends answer (buildSnapshot settings) w result w₁) ↔
          result = .error (.policy .globalRole name source) := by
  -- A pass ends in one way only, with the snapshot of the roles or with what stands against it.
  have hresult : ∀ result, (∃ w₁, Ends answer (buildSnapshot settings) w result w₁) ↔
      result = Snapshot.ofRoles (.ofResources rs) := by
    simp [ends_buildSnapshot_iff h hrs]
  refine ⟨Roles.get?_ofResources hrs, fun snapshot => ?_, fun snapshot w₁ hends hnames => ?_,
    fun e he result => ?_, fun resolved hresolved hnone => ?_⟩
  · rw [hresult, eq_comm, Snapshot.ofRoles_eq_ok_iff]
  · obtain ⟨hresolved, htuples, -⟩ :=
      Snapshot.ofRoles_eq_ok_iff.1 ((hresult _).1 ⟨w₁, hends⟩).symm
    refine exists_tuples_of_clusterTuples hresolved htuples fun name hname => ?_
    obtain ⟨r, hr, -, rfl⟩ := Roles.contains_ofResources.1 hname
    exact hnames r hr
  · rw [hresult, Snapshot.ofRoles_of_resolve_eq_error he]
  · cases hroles : Snapshot.ofRoles (.ofResources rs) with
    | ok snapshot =>
      obtain ⟨hresolved', htuples, hvalid⟩ := Snapshot.ofRoles_eq_ok_iff.1 hroles
      rw [hresolved] at hresolved'
      cases hresolved'
      exact absurd ⟨_, htuples, hvalid⟩ hnone
    | error e =>
      obtain ⟨before, name, permissions, after, source, hsplit, hbefore, hfail, rfl⟩ :=
        Snapshot.exists_first_grantsFail hresolved hroles
      refine ⟨before, name, permissions, after, source, hsplit, hbefore, hfail, fun result => ?_⟩
      rw [hresult, hroles]

/-- A role with one permission of its own. -/
def roleTo (action name : String) (refs : List String) : Resource where
  metadata := { name }
  spec := .globalRole { permissions := [{ action }], refs }

/-- A lister with two pages of roles, the second one of which replaces a role of the first. -/
def roleLister : (q : Request) → Nat → q.Answer × Nat
  | .call (.list .globalRole _ _ token) _, n =>
    match token with
    | none =>
      (.answered (.ok {
        items := [roleTo "docs:delete" "reader" [], roleTo "docs:write" "editor" ["reader"]]
        next := some "2nd" }), n + 1)
    | some _ =>
      (.answered (.ok { items := [roleTo "docs:read" "reader" []], next := some "" }), n + 1)
  | .call _ _, n => (.timedOut, n)
  | .publish _, n => ((), n)

/-- The second page takes a role from the first one's place, and its permissions are those that are
inherited. -/
theorem ends_buildSnapshot_replaced : ∃ snapshot w₁,
    Ends roleLister (buildSnapshot {}) 0 (.ok snapshot) w₁ ∧
      snapshot.tuples = [
        .relate "role:editor#assignee" "get" "group_resource:docs",
        .relate "role:editor#assignee" "update" "group_resource:docs",
        .relate "role:reader#assignee" "get" "group_resource:docs"] := by
  have hfirst : roleLister (rolesRequest {} none) 0 = (.answered (.ok {
    items := [roleTo "docs:delete" "reader" [], roleTo "docs:write" "editor" ["reader"]]
    next := some "2nd" }), 1) := rfl
  have hsecond : roleLister (rolesRequest {} (some "2nd")) 1 =
    (.answered (.ok { items := [roleTo "docs:read" "reader" []], next := some "" }), 2) := rfl
  -- The editor refers to the reader of the second page.
  have hpages : RolePaging roleLister {} none 0
      [roleTo "docs:delete" "reader" [], roleTo "docs:write" "editor" ["reader"],
        roleTo "docs:read" "reader" []] 2 :=
    .more hfirst rfl (.last hsecond rfl)
  obtain ⟨-, hok, -⟩ := ends_buildSnapshot hpages (by decide)
  obtain ⟨w₁, hends⟩ := (hok {
    resolved := .ofList [("editor", [{ action := "docs:read" }, { action := "docs:write" }]),
      ("reader", [{ action := "docs:read" }])]
    tuples := [
      .relate "role:editor#assignee" "get" "group_resource:docs",
      .relate "role:editor#assignee" "update" "group_resource:docs",
      .relate "role:reader#assignee" "get" "group_resource:docs"] }).2
    ⟨by rfl, by rfl, by decide⟩
  exact ⟨_, w₁, hends, rfl⟩

end PolicySync.Pass
