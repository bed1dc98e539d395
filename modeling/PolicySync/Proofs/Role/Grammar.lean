import PolicySync.Proofs.Role.Scope
import PolicySync.Proofs.Schema

/-!
# Which permissions have a tuple

`IsAction` says which texts are actions, and `GrantAction.StandsFor` what their kinds and verbs stand
for; `GrantScope.Spells` says which texts are scopes. A permission has a tuple when its action stands
for something and its scope is a scope, and what fails first is what the error tells
(`permission_grammar`). Under a scope of the action's own kind or of folders, the relation and the object
of the tuple are those of `GrantAction.LandsOn`.
-/

namespace PolicySync

/-- An action is a kind and a verb around its last colon, neither of them empty. -/
structure IsAction (action kind verb : String) : Prop where
  eq : action = kind ++ ":" ++ verb
  kind_ne : kind ≠ ""
  verb_ne : verb ≠ ""
  colonless : ':' ∉ verb.toList

namespace GrantAction

variable {action kind verb relation : String} {p : Permission} {a : GrantAction}

/-- The verbs on things of a kind, each with its relation. -/
def verbsOnThings : List (String × String) :=
  [("read", "get"), ("write", "update"), ("create", "create"), ("delete", "delete")]

/-- The verbs on the permissions of things of a kind, each with its relation. -/
def verbsOnPermissions : List (String × String) :=
  [("read", "get_permissions"), ("write", "set_permissions")]

/-- A kind is about the permissions of things of a base kind. -/
structure IsPermissionsOf (kind base : String) : Prop where
  eq : kind = base ++ ".permissions"
  base_ne : base ≠ ""

/-- What a kind and a verb stand for: a relation to things of the kind, or of its base kind when it is
about permissions. -/
inductive StandsFor : String → String → GrantAction → Prop where
  | things {kind verb relation : String} (hkind : ∀ base, ¬ IsPermissionsOf kind base)
      (hverb : (verb, relation) ∈ verbsOnThings) : StandsFor kind verb ⟨kind, relation⟩
  | permissions {kind base verb relation : String} (hkind : IsPermissionsOf kind base)
      (hverb : (verb, relation) ∈ verbsOnPermissions) : StandsFor kind verb ⟨base, relation⟩

/-! ## Reading an action -/

/-- The verbs on resources and their relations are those of the table. -/
theorem resourceRelation?_eq_some_iff :
    resourceRelation? verb = some relation ↔ (verb, relation) ∈ verbsOnThings := by
  unfold resourceRelation?
  split <;> simp_all [verbsOnThings, eq_comm]

/-- So are the verbs on the permissions of resources. -/
theorem permissionsRelation?_eq_some_iff :
    permissionsRelation? verb = some relation ↔ (verb, relation) ∈ verbsOnPermissions := by
  unfold permissionsRelation?
  split <;> simp_all [verbsOnPermissions, eq_comm]

/-- A kind is about permissions when it ends so. -/
theorem permissionsBase?_eq_some_iff {base : String} :
    permissionsBase? kind.toList = some base.toList ↔ IsPermissionsOf kind base := by
  rw [permissionsBase?, Option.filter_eq_some_iff]
  constructor
  · rintro ⟨hbefore, hne⟩
    refine ⟨?_, by simpa using hne⟩
    rw [← String.toList_inj, Schema.eq_of_before? hbefore, String.toList_append]
  · rintro ⟨rfl, hne⟩
    rw [String.toList_append]
    exact ⟨Schema.before?_append _ _, by simpa using hne⟩

/-- Otherwise it is about resources. -/
theorem permissionsBase?_eq_none_iff :
    permissionsBase? kind.toList = none ↔ ∀ base, ¬ IsPermissionsOf kind base := by
  constructor
  · intro h base hbase
    rw [permissionsBase?_eq_some_iff.2 hbase] at h
    cases h
  · intro h
    rw [Option.eq_none_iff_forall_ne_some]
    intro base hbase
    rw [← String.toList_ofList (l := base)] at hbase
    exact h _ (permissionsBase?_eq_some_iff.1 hbase)

/-- An action is cut at its last colon into a kind and a verb that are not empty. -/
theorem cut?_eq_some_iff :
    cut? action = some (kind.toList, verb.toList) ↔ IsAction action kind verb := by
  rw [cut?, Option.filter_eq_some_iff]
  constructor
  · rintro ⟨hcut, hparts⟩
    have hne : kind ≠ "" ∧ verb ≠ "" := by simpa using hparts
    refine ⟨?_, hne.1, hne.2, Text.not_mem_of_cutLast hcut⟩
    rw [← String.toList_inj, Text.eq_of_cutLast hcut]
    simp
  · rintro ⟨rfl, hkind, hverb, hcolon⟩
    have hlist : (kind ++ ":" ++ verb).toList = kind.toList ++ ':' :: verb.toList := by simp
    rw [hlist]
    exact ⟨Text.cutLast_append hcolon _, by simpa using ⟨hkind, hverb⟩⟩

/-- An action that cannot be cut so is none. -/
theorem cut?_eq_none_iff : cut? action = none ↔ ∀ kind verb, ¬ IsAction action kind verb := by
  constructor
  · intro h kind verb haction
    rw [cut?_eq_some_iff.2 haction] at h
    cases h
  · intro h
    rw [Option.eq_none_iff_forall_ne_some]
    rintro ⟨kind, verb⟩ hcut
    rw [← String.toList_ofList (l := kind), ← String.toList_ofList (l := verb)] at hcut
    exact h _ _ (cut?_eq_some_iff.1 hcut)

/-! ## What an action allows -/

/-- A kind and a verb allow what they stand for. -/
theorem ofPermission_of_standsFor (h : IsAction p.action kind verb) (ha : StandsFor kind verb a) :
    ofPermission p = .ok a := by
  rw [ofPermission, cut?_eq_some_iff.2 h]
  cases ha with
  | things hkind hverb =>
    simp [permissionsBase?_eq_none_iff.2 hkind, resourceRelation?_eq_some_iff.2 hverb]
  | permissions hkind hverb =>
    simp [permissionsBase?_eq_some_iff.2 hkind, permissionsRelation?_eq_some_iff.2 hverb]

/-- A verb that its kind does not have is not supported. -/
theorem ofPermission_of_not_standsFor (h : IsAction p.action kind verb)
    (hnone : ∀ a, ¬ StandsFor kind verb a) :
    ofPermission p = .error (.unsupportedVerb verb p.action) := by
  rw [ofPermission, cut?_eq_some_iff.2 h]
  -- The two tables have their own verbs.
  cases hbase : permissionsBase? kind.toList with
  | none =>
    have hverb : resourceRelation? verb = none := by
      rw [Option.eq_none_iff_forall_ne_some]
      intro relation hrelation
      exact hnone _ (.things (permissionsBase?_eq_none_iff.1 hbase)
        (resourceRelation?_eq_some_iff.1 hrelation))
    simp [hbase, hverb]
  | some base =>
    have hverb : permissionsRelation? verb = none := by
      rw [Option.eq_none_iff_forall_ne_some]
      intro relation hrelation
      rw [← String.toList_ofList (l := base)] at hbase
      exact hnone _ (.permissions (permissionsBase?_eq_some_iff.1 hbase)
        (permissionsRelation?_eq_some_iff.1 hrelation))
    simp [hbase, hverb]

/-- A text that is no action is malformed. -/
theorem ofPermission_of_not_isAction (h : ∀ kind verb, ¬ IsAction p.action kind verb) :
    ofPermission p = .error (.malformedPermission p .action) := by
  rw [ofPermission, cut?_eq_none_iff.2 h]

/-- Actions allow what their kinds and verbs stand for, and nothing else allows anything. -/
theorem ofPermission_eq_ok_iff : ofPermission p = .ok a ↔
    ∃ kind verb, IsAction p.action kind verb ∧ StandsFor kind verb a := by
  constructor
  · intro h
    by_cases haction : ∃ kind verb, IsAction p.action kind verb
    · obtain ⟨kind, verb, haction⟩ := haction
      by_cases hstands : ∃ b, StandsFor kind verb b
      · obtain ⟨b, hb⟩ := hstands
        rw [ofPermission_of_standsFor haction hb] at h
        cases h
        exact ⟨kind, verb, haction, hb⟩
      · rw [ofPermission_of_not_standsFor haction (not_exists.1 hstands)] at h
        cases h
    · have hnone : ∀ kind verb, ¬ IsAction p.action kind verb := fun kind verb hkv =>
        haction ⟨kind, verb, hkv⟩
      rw [ofPermission_of_not_isAction hnone] at h
      cases h
  · rintro ⟨kind, verb, haction, hstands⟩
    exact ofPermission_of_standsFor haction hstands

/-! ## Where grants land -/

/-- The relation and the object that an action has under a scope that says nothing of a kind, or speaks
of its own kind or of folders. -/
inductive LandsOn (a : GrantAction) : String → String → String → Prop where
  | nothing : LandsOn a "" a.relation (objectRef "group_resource" a.kind)
  | star : LandsOn a "*" a.relation (objectRef "group_resource" a.kind)
  | all {kind : String} (hkind : IsSegment kind) (hown : kind = a.kind ∨ kind = "folders") :
      LandsOn a (kind ++ ":*") a.relation (objectRef "group_resource" a.kind)
  | allBy {kind attr : String} (hkind : IsSegment kind) (hown : kind = a.kind ∨ kind = "folders")
      (hattr : IsSegment attr) :
      LandsOn a (kind ++ ":" ++ attr ++ ":" ++ "*") a.relation (objectRef "group_resource" a.kind)
  | folder {attr id : String} (hown : a.kind = "folders") (hattr : IsSegment attr) (hid : id ≠ "")
      (hstar : id ≠ "*") :
      LandsOn a ("folders" ++ ":" ++ attr ++ ":" ++ id) a.relation (objectRef "folder" id)
  | inFolder {attr id : String} (hother : a.kind ≠ "folders") (hattr : IsSegment attr) (hid : id ≠ "")
      (hstar : id ≠ "*") :
      LandsOn a ("folders" ++ ":" ++ attr ++ ":" ++ id) (a.kind ++ "_" ++ a.relation)
        (objectRef "folder" id)
  | thing {attr id : String} (hkind : IsSegment a.kind) (hother : a.kind ≠ "folders")
      (hattr : IsSegment attr) (hid : id ≠ "") (hstar : id ≠ "*") :
      LandsOn a (a.kind ++ ":" ++ attr ++ ":" ++ id) a.relation
        (objectRef "resource" (a.kind ++ "/" ++ id))

/-- Where an action lands is where its grant under the scope is. -/
theorem LandsOn.exists_spells {scope object : String} (h : a.LandsOn scope relation object) :
    ∃ s, GrantScope.Spells scope s ∧ ∀ role,
      a.grant role s = .relate (usersetRef "role" role "assignee") relation object := by
  have hfolders : IsSegment "folders" := ⟨by decide, by decide⟩
  cases h with
  | nothing => exact ⟨_, .nothing, fun _ => rfl⟩
  | star => exact ⟨_, .star, fun _ => rfl⟩
  | all hkind _ => exact ⟨_, .all hkind, fun _ => rfl⟩
  | allBy hkind _ hattr => exact ⟨_, .allBy hkind hattr, fun _ => rfl⟩
  | folder hown hattr hid hstar =>
    refine ⟨_, .one hfolders hattr hid hstar, fun role => ?_⟩
    simp [grant, thingRef, foldersKind, hown]
  | inFolder hother hattr hid hstar =>
    refine ⟨_, .one hfolders hattr hid hstar, fun role => ?_⟩
    simp [grant, thingRef, foldersKind, hother]
  | thing hkind hother hattr hid hstar =>
    refine ⟨_, .one hkind hattr hid hstar, fun role => ?_⟩
    simp [grant, thingRef, foldersKind, hother]

end GrantAction

/-- A scope is refused when it spells nothing. -/
theorem GrantScope.parse?_eq_none_iff {scope : String} :
    parse? scope = none ↔ ∀ s, ¬ Spells scope s := by
  simp only [Option.eq_none_iff_forall_ne_some, ne_eq, parse?_eq_some_iff]

/-- A permission has a tuple only if its action stands for something and its scope is one. Without a
tuple, an action that is no kind and verb is malformed, a verb that the kind does not have is not
supported whatever the scope is, and otherwise the scope is malformed. Under a scope that speaks of no
kind but that of the action and folders, there is a tuple, about the object that the action lands on. -/
theorem permission_grammar (role action scope : String) :
    let p : Permission := ⟨action, scope⟩
    (∀ t, grantTuple role p = .ok t →
      (∃ kind verb a, IsAction action kind verb ∧ GrantAction.StandsFor kind verb a) ∧
        ∃ s, GrantScope.Spells scope s) ∧
    ((∀ kind verb, ¬ IsAction action kind verb) →
      grantTuple role p = .error (.malformedPermission p .action)) ∧
    ∀ kind verb, IsAction action kind verb →
      ((∀ a, ¬ GrantAction.StandsFor kind verb a) →
        grantTuple role p = .error (.unsupportedVerb verb action)) ∧
      ∀ a, GrantAction.StandsFor kind verb a →
        ((∀ s, ¬ GrantScope.Spells scope s) →
          grantTuple role p = .error (.malformedPermission p .scope)) ∧
        ∀ relation object, a.LandsOn scope relation object →
          grantTuple role p = .ok (.relate (usersetRef "role" role "assignee") relation object) := by
  intro p
  refine ⟨fun t ht => ?_, fun hnone => ?_, fun kind verb haction => ⟨fun hnone => ?_, fun a ha => ?_⟩⟩
  · obtain ⟨a, s, ha, hscope, -⟩ := grantTuple_eq_ok_iff.1 ht
    obtain ⟨kind, verb, haction, hstands⟩ := GrantAction.ofPermission_eq_ok_iff.1 ha
    exact ⟨⟨kind, verb, a, haction, hstands⟩, s, hscope⟩
  · rw [grantTuple_eq, GrantAction.ofPermission_of_not_isAction hnone]
    rfl
  · rw [grantTuple_eq, GrantAction.ofPermission_of_not_standsFor haction hnone]
    rfl
  · have hallows : GrantAction.ofPermission p = .ok a := GrantAction.ofPermission_of_standsFor haction ha
    constructor
    · intro hnone
      rw [grantTuple_eq, hallows, GrantScope.parse?_eq_none_iff.2 hnone]
      rfl
    · intro relation object hlands
      obtain ⟨s, hscope, hgrant⟩ := hlands.exists_spells
      exact grantTuple_eq_ok_iff.2 ⟨a, s, hallows, hscope, (hgrant role).symm⟩

/-- The permissions of the boards in a folder, whose id may hold a colon. -/
example : grantTuple "editor" ⟨"boards.permissions:read", "folders:uid:a:b"⟩ =
    .ok (.relate "role:editor#assignee" "boards_get_permissions" "folder:a:b") := rfl

/-- The action is looked at before the scope, and its shape before its verb. -/
example : grantTuple "editor" ⟨":read", ":"⟩ =
      .error (.malformedPermission ⟨":read", ":"⟩ .action) ∧
    grantTuple "editor" ⟨"boards.permissions:delete", ":"⟩ =
      .error (.unsupportedVerb "delete" "boards.permissions:delete") ∧
    grantTuple "editor" ⟨".permissions:delete", ":"⟩ =
      .error (.malformedPermission ⟨".permissions:delete", ":"⟩ .scope) := ⟨rfl, rfl, rfl⟩

end PolicySync
