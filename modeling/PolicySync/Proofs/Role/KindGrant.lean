import PolicySync.Proofs.Resource.Tuples

/-!
# Grants on folders

A grant on a folder is about the folder, or about the resources of a kind inside, and then its relation
names the kind (`Schema.IsKindGrant`). `GrantAction.onFolder` is the relation that an action gives on a
folder, and it tells what the action allows (`GrantAction.onFolder_inj`). An action is told by what it
allows in turn, so the grants of different actions on folders have different relations
(`folder_grants_apart`).
-/

namespace PolicySync

namespace GrantAction

variable {kind kind' verb verb' : String} {p q : Permission} {a b : GrantAction}

/-! ## What actions stand for -/

/-- What a kind and a verb stand for tells both. -/
theorem StandsFor.inj (h : StandsFor kind verb a) (h' : StandsFor kind' verb' a) :
    kind = kind' ∧ verb = verb' := by
  have hthings : ∀ e ∈ verbsOnThings, ∀ e' ∈ verbsOnThings, e.2 = e'.2 → e.1 = e'.1 := by decide
  have hpermissions : ∀ e ∈ verbsOnPermissions, ∀ e' ∈ verbsOnPermissions, e.2 = e'.2 → e.1 = e'.1 := by
    decide
  have hapart : ∀ e ∈ verbsOnThings, ∀ e' ∈ verbsOnPermissions, e.2 ≠ e'.2 := by decide
  cases h with
  | things _ hverb =>
    cases h' with
    | things _ hverb' => exact ⟨rfl, hthings _ hverb _ hverb' rfl⟩
    | permissions _ hverb' => exact (hapart _ hverb _ hverb' rfl).elim
  | permissions hkind hverb =>
    cases h' with
    | things _ hverb' => exact (hapart _ hverb' _ hverb rfl).elim
    | permissions hkind' hverb' =>
      exact ⟨hkind.eq.trans hkind'.eq.symm, hpermissions _ hverb _ hverb' rfl⟩

/-- Actions that allow the same are the same. -/
theorem action_eq_iff (hp : ofPermission p = .ok a) (hq : ofPermission q = .ok b) :
    p.action = q.action ↔ a = b := by
  constructor
  · intro h
    rw [ofPermission_congr hp h.symm] at hq
    exact Except.ok.inj hq
  · rintro rfl
    obtain ⟨kind, verb, haction, hstands⟩ := ofPermission_eq_ok_iff.1 hp
    obtain ⟨kind', verb', haction', hstands'⟩ := ofPermission_eq_ok_iff.1 hq
    obtain ⟨rfl, rfl⟩ := hstands.inj hstands'
    rw [haction.eq, haction'.eq]

/-! ## Grants on folders -/

/-- The relation that an action gives on a folder: its own on folders, and on other kinds that of the kind
inside. -/
def onFolder (a : GrantAction) : String :=
  if a.kind = foldersKind then a.relation else a.kind ++ "_" ++ a.relation

/-- What an action allows makes up a relation that names its kind. -/
theorem isKindGrant_of_ofPermission (h : ofPermission p = .ok a) :
    Schema.IsKindGrant (a.kind ++ "_" ++ a.relation) a.kind a.relation := by
  obtain ⟨hkind, hrelation, -⟩ := ofPermission_eq_ok h
  exact ⟨rfl, hkind, hrelation⟩

/-- The relation on a folder tells what the action allows. -/
theorem onFolder_inj (hp : ofPermission p = .ok a) (hq : ofPermission q = .ok b)
    (h : a.onFolder = b.onFolder) : a = b := by
  have ha := isKindGrant_of_ofPermission hp
  have hb := isKindGrant_of_ofPermission hq
  have hsame : a.kind = b.kind ∧ a.relation = b.relation := by
    unfold onFolder at h
    by_cases hown : a.kind = foldersKind
    · by_cases hown' : b.kind = foldersKind
      · rw [if_pos hown, if_pos hown'] at h
        exact ⟨hown.trans hown'.symm, h⟩
      · rw [if_pos hown, if_neg hown'] at h
        exact absurd (h ▸ ha.grant_mem) hb.not_mem_grantRelations
    · by_cases hown' : b.kind = foldersKind
      · rw [if_neg hown, if_pos hown'] at h
        exact absurd (h ▸ hb.grant_mem) ha.not_mem_grantRelations
      · rw [if_neg hown, if_neg hown'] at h
        exact Schema.eq_of_kindGrant_eq ha.grant_mem hb.grant_mem h
  cases a
  cases b
  rw [mk.injEq]
  exact hsame

/-- A grant on one folder. -/
theorem grant_folder (role : String) (a : GrantAction) (id : String) :
    a.grant role (.one foldersKind id) =
      .relate (usersetRef "role" role "assignee") a.onFolder (objectRef "folder" id) := by
  rw [grant, thingRef, if_pos rfl, onFolder]
  by_cases hown : a.kind = foldersKind
  · simp [hown]
  · simp [hown]

end GrantAction

/-- A grant on a folder has the relation of its action on folders. -/
theorem exists_action_of_folderGrant {role id : String} {p : Permission} {t : Tuple}
    (h : grantTuple role p = .ok t) (hobject : t.key.object = objectRef "folder" id) :
    ∃ a, GrantAction.ofPermission p = .ok a ∧ t.key.relation = a.onFolder := by
  obtain ⟨a, s, ha, -, rfl⟩ := grantTuple_eq_ok_iff.1 h
  refine ⟨a, ha, ?_⟩
  -- Neither everything of a kind nor a single thing of another kind is a folder.
  have hapart : ∀ type, ':' ∉ type.toList → type ≠ "folder" → ∀ other,
      objectRef type other ≠ objectRef "folder" id :=
    fun type htype hne other heq => hne (eq_of_objectRef_eq htype (by decide) heq)
  cases s with
  | everything => exact absurd hobject (hapart "group_resource" (by decide) (by decide) _)
  | one kind other =>
    by_cases hfolders : kind = foldersKind
    · rw [hfolders, GrantAction.grant_folder]
      rfl
    · have hresource : thingRef kind other = objectRef "resource" (kind ++ "/" ++ other) :=
        if_neg hfolders
      exact absurd (hresource.symm.trans hobject) (hapart "resource" (by decide) (by decide) _)

/-- A relation is taken as handed down from folders just when it is a kind and a grant relation around an
underscore. It is so in one way only, and then it is no grant relation by itself, no verb of resources
and not that of a folder to its parent. Two grants on folders have one relation just when they are for the
same kind and verb. -/
theorem folder_grants_apart :
    (∀ relation, (Schema.isFolderKindGrant relation = true ↔
        ∃ kind grant, Schema.IsKindGrant relation kind grant) ∧
      ∀ kind grant, Schema.IsKindGrant relation kind grant →
        (∀ kind' grant', Schema.IsKindGrant relation kind' grant' →
          kind' = kind ∧ grant' = grant) ∧
        relation ∉ Schema.grantRelations ∧ relation ∉ Schema.resourceVerbs ∧ relation ≠ "parent") ∧
    ∀ (role role' : String) (p q : Permission) (t u : Tuple) (id id' : String),
      grantTuple role p = .ok t → t.key.object = objectRef "folder" id →
      grantTuple role' q = .ok u → u.key.object = objectRef "folder" id' →
      (t.key.relation = u.key.relation ↔ p.action = q.action) := by
  refine ⟨fun relation => ⟨Schema.isFolderKindGrant_iff, fun kind grant h => ?_⟩, ?_⟩
  · exact ⟨fun _ _ h' => h'.unique h, h.not_mem_grantRelations, h.not_mem_resourceVerbs, h.ne_parent⟩
  · intro role role' p q t u id id' ht hobject hu hobject'
    obtain ⟨a, ha, hrelation⟩ := exists_action_of_folderGrant ht hobject
    obtain ⟨b, hb, hrelation'⟩ := exists_action_of_folderGrant hu hobject'
    rw [GrantAction.action_eq_iff ha hb, hrelation, hrelation']
    exact ⟨GrantAction.onFolder_inj ha hb, congrArg GrantAction.onFolder⟩

/-- The permissions of things of the kind `boards_get`, and reading things of the kind
`boards_get_get`. -/
theorem folder_grants_apart_nested :
    Schema.isFolderKindGrant "boards_get_get_permissions" = true ∧
    "boards_get_get_permissions" ∉ Schema.grantRelations ∧
    grantTuple "editor" ⟨"boards_get.permissions:read", "folders:uid:7"⟩ =
      .ok (.relate "role:editor#assignee" "boards_get_get_permissions" "folder:7") ∧
    grantTuple "editor" ⟨"boards_get_get:read", "folders:uid:7"⟩ =
      .ok (.relate "role:editor#assignee" "boards_get_get_get" "folder:7") ∧
    "boards_get_get_permissions" ≠ "boards_get_get_get" := by
  have hpermissions : grantTuple "editor" ⟨"boards_get.permissions:read", "folders:uid:7"⟩ =
      .ok (.relate "role:editor#assignee" "boards_get_get_permissions" "folder:7") := rfl
  have hread : grantTuple "editor" ⟨"boards_get_get:read", "folders:uid:7"⟩ =
      .ok (.relate "role:editor#assignee" "boards_get_get_get" "folder:7") := rfl
  have hgrant : Schema.IsKindGrant "boards_get_get_permissions" "boards_get" "get_permissions" :=
    ⟨rfl, by decide, by decide⟩
  obtain ⟨hreadable, hapart⟩ := folder_grants_apart
  obtain ⟨hiff, hspelled⟩ := hreadable "boards_get_get_permissions"
  refine ⟨hiff.2 ⟨_, _, hgrant⟩, (hspelled _ _ hgrant).2.1, hpermissions, hread, fun heq => ?_⟩
  have hsame := (hapart "editor" "editor" _ _ _ _ "7" "7" hpermissions rfl hread rfl).1 heq
  exact absurd hsame (by decide)

end PolicySync
