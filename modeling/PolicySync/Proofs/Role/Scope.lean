import PolicySync.Proofs.Fallible
import PolicySync.Role.Grant

/-!
# What the scope of a permission reaches

`GrantScope.Spells` lists the texts that are scopes, and a permission has a tuple when its action allows
something and its scope is such a text (`grantTuple_eq_ok_iff`). Action and scope are read apart from
each other: nothing asks whether the kind in the scope is the kind of the action, so a scope over any
kind is accepted. One over all of a kind then reaches all of the action's kind, and one for a single
thing reaches the thing that it names (`grants_under_any_kind`).
-/

namespace PolicySync

open Fallible

/-- A part of a scope before its last colon: not empty and without a colon. -/
structure IsSegment (s : String) : Prop where
  ne : s ≠ ""
  colonless : ':' ∉ s.toList

theorem IsSegment.toList_ne_nil {s : String} (h : IsSegment s) : s.toList ≠ [] :=
  fun hnil => h.ne (String.toList_eq_nil_iff.1 hnil)

/-- Characters without a colon are a segment. -/
theorem isSegment_ofList {cs : List Char} (hne : cs ≠ []) (hcolon : ':' ∉ cs) :
    IsSegment (String.ofList cs) :=
  ⟨by simpa using hne, by rwa [String.toList_ofList]⟩

/-- The texts that spell a scope. -/
inductive GrantScope.Spells : String → GrantScope → Prop where
  | nothing : Spells "" .everything
  | star : Spells "*" .everything
  | all {kind : String} (hkind : IsSegment kind) : Spells (kind ++ ":*") .everything
  | allBy {kind attr : String} (hkind : IsSegment kind) (hattr : IsSegment attr) :
      Spells (kind ++ ":" ++ attr ++ ":" ++ "*") .everything
  | one {kind attr id : String} (hkind : IsSegment kind) (hattr : IsSegment attr) (hid : id ≠ "")
      (hstar : id ≠ "*") : Spells (kind ++ ":" ++ attr ++ ":" ++ id) (.one kind id)

namespace GrantScope

variable {scope kind attr id : String} {s : GrantScope}

/-- A scope with a colon is read after its kind. -/
private theorem parse?_of_cut {front rest : List Char}
    (hcut : Text.cutFirst ':' scope.toList = some (front, rest)) (hfront : front ≠ []) :
    parse? scope =
      match Text.cutFirst ':' rest with
      | none => if rest = ['*'] then some .everything else none
      | some (attr, id) =>
        if attr.isEmpty || id.isEmpty then none
        else if id = ['*'] then some .everything
        else some (.one (String.ofList front) (String.ofList id)) := by
  have hcolon : ¬ (scope = "" ∨ scope = "*") := by
    rintro (rfl | rfl)
    · cases hcut
    · cases hcut
  rw [parse?, if_neg hcolon, hcut, Option.bind_eq_bind, Option.bind_some]
  exact if_neg fun h => hfront (List.isEmpty_iff.1 h)

/-- All of a kind is everything. -/
theorem parse?_all (hkind : IsSegment kind) : parse? (kind ++ ":*") = some .everything := by
  have hcut : Text.cutFirst ':' (kind ++ ":*").toList = some (kind.toList, ['*']) := by
    rw [String.toList_append]
    exact Text.cutFirst_append hkind.colonless ['*']
  rw [parse?_of_cut hcut hkind.toList_ne_nil]
  rfl

/-- A scope with three parts is one thing, or everything with a star. -/
theorem parse?_thing (hkind : IsSegment kind) (hattr : IsSegment attr) (hid : id ≠ "") :
    parse? (kind ++ ":" ++ attr ++ ":" ++ id) =
      some (if id = "*" then .everything else .one kind id) := by
  have hlist : (kind ++ ":" ++ attr ++ ":" ++ id).toList =
      kind.toList ++ ':' :: (attr.toList ++ ':' :: id.toList) := by simp
  have hcut := Text.cutFirst_append hkind.colonless (attr.toList ++ ':' :: id.toList)
  rw [← hlist] at hcut
  rw [parse?_of_cut hcut hkind.toList_ne_nil, Text.cutFirst_append hattr.colonless]
  have hparts : ¬ (attr.toList.isEmpty || id.toList.isEmpty) = true := by
    simp [hattr.ne, hid]
  have hstar : id.toList = ['*'] ↔ id = "*" := by
    rw [← String.toList_inj]
    rfl
  dsimp only
  rw [if_neg hparts, apply_ite some]
  simp only [hstar, String.ofList_toList]

/-- The texts that are read as scopes are those that spell them. -/
theorem parse?_eq_some_iff : parse? scope = some s ↔ Spells scope s := by
  constructor
  · intro h
    by_cases hshort : scope = "" ∨ scope = "*"
    · rw [parse?, if_pos hshort] at h
      cases h
      rcases hshort with rfl | rfl
      · exact .nothing
      · exact .star
    · rw [parse?, if_neg hshort] at h
      -- The reader cuts at the first colon and again in the rest, and each check speaks of one
      -- part.
      obtain ⟨⟨front, rest⟩, hcut, h⟩ := Option.bind_eq_some_iff.1 h
      dsimp only at h
      split at h
      · cases h
      next hfront =>
      have hscope := Text.eq_of_cutFirst hcut
      have hkind : IsSegment (String.ofList front) :=
        isSegment_ofList (by simpa using hfront) (Text.not_mem_of_cutFirst hcut)
      split at h
      · -- Nothing but the kind comes before the star.
        split at h
        · next hrest =>
          cases h
          have heq : scope = String.ofList front ++ ":*" := by
            rw [← String.toList_inj, hscope, hrest]
            simp
          exact heq ▸ .all hkind
        · cases h
      · next attr id hcut' =>
        have hrest := Text.eq_of_cutFirst hcut'
        split at h
        · cases h
        next hparts =>
        have hparts : attr ≠ [] ∧ id ≠ [] := by simpa using hparts
        have hattr : IsSegment (String.ofList attr) :=
          isSegment_ofList hparts.1 (Text.not_mem_of_cutFirst hcut')
        have heq : scope = String.ofList front ++ ":" ++ String.ofList attr ++ ":" ++
            String.ofList id := by
          rw [← String.toList_inj, hscope, hrest]
          simp
        split at h
        · next hstar =>
          cases h
          rw [heq, hstar]
          exact .allBy hkind hattr
        · next hstar =>
          cases h
          rw [heq]
          refine .one hkind hattr (by simpa using hparts.2) ?_
          intro hid
          exact hstar (by rw [← String.toList_ofList (l := id), hid]; rfl)
  · intro h
    cases h with
    | nothing => rfl
    | star => rfl
    | all hkind => exact parse?_all hkind
    | allBy hkind hattr => exact parse?_thing hkind hattr (by decide)
    | one hkind hattr hid hstar => rw [parse?_thing hkind hattr hid, if_neg hstar]

end GrantScope

/-! ## The tuple of a permission -/

/-- What an action allows depends on the scope no further than in how a failure is told. -/
theorem GrantAction.ofPermission_congr {p q : Permission} {a : GrantAction}
    (h : ofPermission p = .ok a) (hsame : q.action = p.action) : ofPermission q = .ok a := by
  unfold ofPermission at h ⊢
  rw [hsame]
  cases hcut : cut? p.action with
  | none =>
    rw [hcut] at h
    cases h
  | some parts =>
    rw [hcut] at h
    exact h

/-- What a permission with an action and a scope gives to the assignees of a role. -/
def GrantAction.grant (role : String) (a : GrantAction) : GrantScope → Tuple
  | .everything =>
    .relate (usersetRef "role" role "assignee") a.relation (objectRef "group_resource" a.kind)
  | .one kind id =>
    .relate (usersetRef "role" role "assignee")
      (if kind = foldersKind ∧ a.kind ≠ foldersKind then a.kind ++ "_" ++ a.relation
        else a.relation)
      (thingRef kind id)

/-- The action of a permission is read first, and its scope after that. -/
theorem grantTuple_eq (role : String) (p : Permission) : grantTuple role p =
    GrantAction.ofPermission p >>= fun a =>
      match GrantScope.parse? p.scope with
      | none => .error (.malformedPermission p .scope)
      | some s => .ok (a.grant role s) := by
  rw [grantTuple]
  refine congrArg _ (funext fun a => ?_)
  cases GrantScope.parse? p.scope with
  | none => rfl
  | some s => cases s <;> rfl

/-- A permission has a tuple when its action allows something and its scope is spelled as one. -/
theorem grantTuple_eq_ok_iff {role : String} {p : Permission} {t : Tuple} :
    grantTuple role p = .ok t ↔ ∃ a s, GrantAction.ofPermission p = .ok a ∧
      GrantScope.Spells p.scope s ∧ t = a.grant role s := by
  rw [grantTuple_eq, bind_eq_ok]
  constructor
  · rintro ⟨a, ha, h⟩
    split at h
    · cases h
    · next s hscope =>
      cases h
      exact ⟨a, s, ha, GrantScope.parse?_eq_some_iff.1 hscope, rfl⟩
  · rintro ⟨a, s, ha, hscope, rfl⟩
    refine ⟨a, ha, ?_⟩
    rw [GrantScope.parse?_eq_some_iff.2 hscope]

/-- A permission is accepted whatever kind its scope names. Over all of a kind it gives its relation to
all of the kind that the action names; over one thing it gives it to that thing, of whatever kind, or to
the resources in the folder. -/
theorem grants_under_any_kind {role action : String} {a : GrantAction}
    (h : GrantAction.ofPermission ⟨action, ""⟩ = .ok a) {kind : String} (hkind : IsSegment kind) :
    let holder := usersetRef "role" role "assignee"
    let all : Tuple := .relate holder a.relation (objectRef "group_resource" a.kind)
    grantTuple role ⟨action, kind ++ ":*"⟩ = .ok all ∧
    ∀ attr, IsSegment attr →
      grantTuple role ⟨action, kind ++ ":" ++ attr ++ ":" ++ "*"⟩ = .ok all ∧
      ∀ id, id ≠ "" → id ≠ "*" →
        grantTuple role ⟨action, kind ++ ":" ++ attr ++ ":" ++ id⟩ = .ok
          (if kind = foldersKind then
            .relate holder (if a.kind = foldersKind then a.relation else a.kind ++ "_" ++ a.relation)
              (objectRef "folder" id)
          else .relate holder a.relation (objectRef "resource" (kind ++ "/" ++ id))) := by
  intro holder all
  have hgrant : ∀ scope s, GrantScope.Spells scope s →
      grantTuple role ⟨action, scope⟩ = .ok (a.grant role s) := fun scope s hscope =>
    grantTuple_eq_ok_iff.2 ⟨a, s, GrantAction.ofPermission_congr h rfl, hscope, rfl⟩
  refine ⟨hgrant _ _ (.all hkind), fun attr hattr => ⟨hgrant _ _ (.allBy hkind hattr), ?_⟩⟩
  intro id hid hstar
  rw [hgrant _ _ (.one hkind hattr hid hstar), GrantAction.grant, thingRef]
  by_cases hfolders : kind = foldersKind
  · by_cases hsame : a.kind = foldersKind
    · simp [hfolders, hsame, holder]
    · simp [hfolders, hsame, holder]
  · simp [hfolders, holder]

/-- Reading boards under a scope over all users reads all boards, and under the scope of one user it
reads that user. -/
theorem grants_under_any_kind_users :
    grantTuple "viewer" ⟨"boards:read", "users:*"⟩ =
      .ok (.relate "role:viewer#assignee" "get" "group_resource:boards") ∧
    grantTuple "viewer" ⟨"boards:read", "users:id:7"⟩ =
      .ok (.relate "role:viewer#assignee" "get" "resource:users/7") := by
  have haction : GrantAction.ofPermission ⟨"boards:read", ""⟩ = .ok ⟨"boards", "get"⟩ := rfl
  have hkind : IsSegment "users" := ⟨by decide, by decide⟩
  have hattr : IsSegment "id" := ⟨by decide, by decide⟩
  obtain ⟨hall, hthings⟩ := @grants_under_any_kind "viewer" _ _ haction _ hkind
  refine ⟨hall, ?_⟩
  exact (hthings "id" hattr).2 "7" (by decide) (by decide)

/-- The kind in the scope of an accepted permission need be neither that of the action nor folders. -/
theorem scope_of_another_kind : ¬ ∀ (role : String) (p : Permission) (a : GrantAction) (t : Tuple),
    GrantAction.ofPermission p = .ok a → grantTuple role p = .ok t → p.scope ≠ "" → p.scope ≠ "*" →
    ∀ front rest, Text.cutFirst ':' p.scope.toList = some (front, rest) →
      String.ofList front = a.kind ∨ String.ofList front = foldersKind := by
  intro h
  have hkind := h "viewer" ⟨"boards:read", "users:*"⟩ ⟨"boards", "get"⟩
    (.relate "role:viewer#assignee" "get" "group_resource:boards") rfl rfl (by decide) (by decide)
    "users".toList ['*'] rfl
  exact absurd hkind (by decide)

end PolicySync
