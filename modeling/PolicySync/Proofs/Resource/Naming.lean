import PolicySync.Proofs.Resource.Tuples

/-!
# Which thing a reference names

A resource reference names one thing by its kind and its name, and so does the scope of a permission,
with an attribute between them; both are about the same object (`grants_and_access_meet`). A folder is
the object of its name. The object of anything else is the kind and the name around a slash, and either
may hold slashes of its own, so it does not tell where the kind ends: two references are about one
object just when they are equal, or a part of one's name, up to a slash, is at the end of the other's
kind (`access_objects_eq_iff`).
-/

namespace PolicySync

theorem Text.toList_slashed (a b : String) : (a ++ "/" ++ b).toList = a.toList ++ '/' :: b.toList := by
  simp

namespace ResourceRef

variable {r r' : ResourceRef} {object : String}

/-- A reference is accepted and names an object: all that is granted on it is about the object. -/
structure Names (r : ResourceRef) (object : String) : Prop where
  accepted : r.object = .ok object
  about : ∀ entries ts, resourcePermissionTuples r entries = .ok ts →
    ∀ t ∈ ts, t.key.object = object

/-- A reference whose parts are not empty names its object. -/
theorem names_thingRef (hkind : r.kind ≠ "") (hname : r.name ≠ "") :
    r.Names (thingRef r.kind r.name) := by
  refine ⟨object_eq_ok_iff.2 ⟨hkind, hname, rfl⟩, fun entries ts hts t ht => ?_⟩
  obtain ⟨object, hobject, hall⟩ := resourcePermissionTuples_eq_ok hts
  obtain ⟨-, -, rfl⟩ := object_eq_ok_iff.1 hobject
  obtain ⟨entry, -, kind, user, -, -, rfl⟩ := hall t ht
  rfl

/-! ## Equal objects -/

/-- The second reference has a part of the first one's name, up to a slash, at the end of its kind. -/
def ShiftsTo (r r' : ResourceRef) : Prop :=
  ∃ x, r'.kind = r.kind ++ "/" ++ x ∧ r.name = x ++ "/" ++ r'.name

/-- A part moves from the kind to the name, in characters. -/
theorem shiftsTo_iff : r.ShiftsTo r' ↔ ∃ x, r'.kind.toList = r.kind.toList ++ '/' :: x ∧
    r.name.toList = x ++ '/' :: r'.name.toList := by
  constructor
  · rintro ⟨x, hkind, hname⟩
    rw [← String.toList_inj, Text.toList_slashed] at hkind hname
    exact ⟨x.toList, hkind, hname⟩
  · rintro ⟨x, hkind, hname⟩
    refine ⟨String.ofList x, ?_, ?_⟩
    · rw [← String.toList_inj, Text.toList_slashed, String.toList_ofList, hkind]
    · rw [← String.toList_inj, Text.toList_slashed, String.toList_ofList, hname]

/-- This takes a kind with a slash. -/
theorem ShiftsTo.slash_mem (h : r.ShiftsTo r') : '/' ∈ r'.kind.toList := by
  obtain ⟨x, hkind, -⟩ := shiftsTo_iff.1 h
  simp [hkind]

theorem eq_iff : r = r' ↔ r.kind = r'.kind ∧ r.name = r'.name := by
  cases r
  cases r'
  simp

/-- Kinds and names around a slash are one text when they are equal or the slashes are different ones
of it. -/
theorem slashed_eq_iff : r.kind ++ "/" ++ r.name = r'.kind ++ "/" ++ r'.name ↔
    r = r' ∨ r.ShiftsTo r' ∨ r'.ShiftsTo r := by
  rw [← String.toList_inj, Text.toList_slashed, Text.toList_slashed, Text.glued_eq_iff, eq_iff,
    shiftsTo_iff, shiftsTo_iff, String.toList_inj, String.toList_inj]

/-- Things are one object when they have the same kind and name, or kinds and names that make up one
text; folders are told apart by their names. -/
theorem thingRef_eq_iff : thingRef r.kind r.name = thingRef r'.kind r'.name ↔ r = r' ∨
    r.kind ≠ foldersKind ∧ r'.kind ≠ foldersKind ∧ (r.ShiftsTo r' ∨ r'.ShiftsTo r) := by
  have hapart : ∀ id id', objectRef "folder" id ≠ objectRef "resource" id' := by
    intro id id' heq
    exact absurd (eq_of_objectRef_eq (by decide) (by decide) heq) (by decide)
  unfold thingRef
  by_cases hkind : r.kind = foldersKind
  · by_cases hkind' : r'.kind = foldersKind
    · rw [if_pos hkind, if_pos hkind', objectRef_inj, eq_iff, hkind, hkind']
      simp
    · rw [if_pos hkind, if_neg hkind', eq_iff]
      simp [hapart, hkind, Ne.symm hkind']
  · by_cases hkind' : r'.kind = foldersKind
    · rw [if_neg hkind, if_pos hkind', eq_iff]
      simp [(hapart _ _).symm, hkind, hkind']
    · rw [if_neg hkind, if_neg hkind', objectRef_inj, slashed_eq_iff]
      simp [hkind, hkind']

end ResourceRef

/-- Two references are about one object just when they are equal, or neither is to a folder and one has
a part of the other's name, up to a slash, at the end of its kind. So kinds without slashes tell the
objects of different references apart. -/
theorem access_objects_eq_iff {r r' : ResourceRef} (hr : r.kind ≠ "" ∧ r.name ≠ "")
    (hr' : r'.kind ≠ "" ∧ r'.name ≠ "") : ∃ object object', r.Names object ∧ r'.Names object' ∧
      (object = object' ↔ r = r' ∨
        r.kind ≠ foldersKind ∧ r'.kind ≠ foldersKind ∧ (r.ShiftsTo r' ∨ r'.ShiftsTo r)) ∧
      ('/' ∉ r.kind.toList → '/' ∉ r'.kind.toList → object = object' → r = r') := by
  refine ⟨_, _, ResourceRef.names_thingRef hr.1 hr.2, ResourceRef.names_thingRef hr'.1 hr'.2,
    ResourceRef.thingRef_eq_iff, fun hslash hslash' heq => ?_⟩
  rcases ResourceRef.thingRef_eq_iff.1 heq with hsame | ⟨-, -, hshift | hshift⟩
  · exact hsame
  · exact absurd hshift.slash_mem hslash'
  · exact absurd hshift.slash_mem hslash

/-- The kinds `boards` and `users` tell the objects of things apart that have the same name. -/
theorem access_objects_eq_iff_boards : ∃ object object',
    ResourceRef.Names ⟨"boards", "a/7"⟩ object ∧ ResourceRef.Names ⟨"users", "a/7"⟩ object' ∧
      object ≠ object' := by
  obtain ⟨object, object', hnames, hnames', -, happart⟩ :=
    @access_objects_eq_iff ⟨"boards", "a/7"⟩ ⟨"users", "a/7"⟩ (by decide) (by decide)
  refine ⟨object, object', hnames, hnames', fun heq => ?_⟩
  exact absurd (happart (by decide) (by decide) heq) (by decide)

/-- A grant on the board `a/7` reads as one on `7` of the kind `boards/a`. -/
theorem access_objects_run_together : ¬ ∀ (r r' : ResourceRef) (entries entries' : List AccessEntry)
    (ts ts' : List Tuple), r.kind ≠ "" ∧ r.name ≠ "" → r'.kind ≠ "" ∧ r'.name ≠ "" →
    resourcePermissionTuples r entries = .ok ts → resourcePermissionTuples r' entries' = .ok ts' →
    ∀ t ∈ ts, ∀ t' ∈ ts', t.key.object = t'.key.object → r.kind = r'.kind ∧ r.name = r'.name := by
  intro h
  let entries : List AccessEntry := [{ kind := "user", name := "ann", verb := "view" }]
  let grant : Tuple := .relate "user:ann" "view" "resource:boards/a/7"
  have hsame := h ⟨"boards", "a/7"⟩ ⟨"boards/a", "7"⟩ entries entries [grant] [grant] (by decide)
    (by decide) rfl rfl grant List.mem_cons_self grant List.mem_cons_self rfl
  exact absurd hsame (by decide)

/-- A permission on one thing of a kind and a resource reference of that kind and name are about the
same object: the folder of the name, or else the kind and the name around a slash. -/
theorem grants_and_access_meet {role role' action scope : String} {t : Tuple}
    (haction : grantTuple role' ⟨action, scope⟩ = .ok t) {kind name attr : String}
    (hkind : IsSegment kind) (hname : name ≠ "") (hstar : name ≠ "*") (hattr : IsSegment attr) :
    let object := if kind = "folders" then objectRef "folder" name
      else objectRef "resource" (kind ++ "/" ++ name)
    (∃ grant, grantTuple role ⟨action, kind ++ ":" ++ attr ++ ":" ++ name⟩ = .ok grant ∧
      grant.key.object = object) ∧ ResourceRef.Names ⟨kind, name⟩ object := by
  obtain ⟨a, s, ha, -, -⟩ := grantTuple_eq_ok_iff.1 haction
  refine ⟨⟨a.grant role (.one kind name), ?_, rfl⟩, ResourceRef.names_thingRef hkind.ne hname⟩
  exact grantTuple_eq_ok_iff.2
    ⟨a, _, GrantAction.ofPermission_congr ha rfl, .one hkind hattr hname hstar, rfl⟩

/-- Reading a board whose name holds a slash and a colon, and reading the boards in such a folder. -/
theorem grants_and_access_meet_slashed :
    (∃ grant, grantTuple "editor" ⟨"boards:read", "boards:uid:a/b:c"⟩ = .ok grant ∧
      grant.key.object = "resource:boards/a/b:c") ∧
    ResourceRef.Names ⟨"boards", "a/b:c"⟩ "resource:boards/a/b:c" ∧
    (∃ grant, grantTuple "editor" ⟨"boards:read", "folders:uid:a/b:c"⟩ = .ok grant ∧
      grant.key.object = "folder:a/b:c") ∧
    ResourceRef.Names ⟨"folders", "a/b:c"⟩ "folder:a/b:c" := by
  have hread : grantTuple "editor" ⟨"boards:read", "*"⟩ =
      .ok (.relate "role:editor#assignee" "get" "group_resource:boards") := rfl
  have hattr : IsSegment "uid" := ⟨by decide, by decide⟩
  have hboard := @grants_and_access_meet "editor" _ _ _ _ hread "boards" "a/b:c" "uid"
    ⟨by decide, by decide⟩ (by decide) (by decide) hattr
  have hfolder := @grants_and_access_meet "editor" _ _ _ _ hread "folders" "a/b:c" "uid"
    ⟨by decide, by decide⟩ (by decide) (by decide) hattr
  exact ⟨hboard.1, hboard.2, hfolder.1, hfolder.2⟩

end PolicySync
