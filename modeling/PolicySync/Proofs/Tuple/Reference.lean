import PolicySync.Tuple.Reference

/-!
# Reading references back

What `objectRef` and `usersetRef` write is cut at the colon after the type, so the type can be read
back whatever the id holds (`eq_of_objectRef_eq`). An id without a mark `#` is read back as it is
(`parse?_objectRef`), while one with a mark is never taken for a thing (`of_parse?_objectRef`). The
relation of a userset stands after the last mark, so there the id may hold others
(`parse?_usersetRef`).

`TypedRef.WellFormed` says which references can be told from their texts. Reading gives just those
(`TypedRef.parse?_eq_some_iff`), each from the one text that it is written as
(`TypedRef.references_readBack`).
-/

namespace PolicySync

/-- A text without the mark `#`, which sets a relation apart from an id. -/
def Unmarked (s : String) : Prop := '#' ∉ s.toList

instance (s : String) : Decidable (Unmarked s) := inferInstanceAs (Decidable ('#' ∉ s.toList))

/-- Joined texts have the marks of both. -/
theorem unmarked_append {s t : String} : Unmarked (s ++ t) ↔ Unmarked s ∧ Unmarked t := by
  simp [Unmarked]

/-- The characters of a reference to an object. -/
theorem toList_objectRef (type id : String) :
    (objectRef type id).toList = type.toList ++ ':' :: id.toList := by
  simp [objectRef]

/-- The characters of a reference to the holders of a relation. -/
theorem toList_usersetRef (type id relation : String) :
    (usersetRef type id relation).toList =
      type.toList ++ ':' :: (id.toList ++ '#' :: relation.toList) := by
  simp [usersetRef]

/-- A userset reads as an object whose name has a mark. -/
theorem usersetRef_eq_objectRef (type id relation : String) :
    usersetRef type id relation = objectRef type (id ++ "#" ++ relation) := by
  rw [← String.toList_inj, toList_usersetRef, toList_objectRef]
  simp

/-- A reference holds no mark when its type and its id hold none. -/
theorem unmarked_objectRef {type id : String} :
    Unmarked (objectRef type id) ↔ Unmarked type ∧ Unmarked id := by
  simp [Unmarked, toList_objectRef]

/-- References to things of types without a colon are of the same type when they are equal. -/
theorem eq_of_objectRef_eq {type type' id id' : String} (h : ':' ∉ type.toList)
    (h' : ':' ∉ type'.toList) (heq : objectRef type id = objectRef type' id') : type = type' := by
  have hcut := Text.cutFirst_append h id.toList
  rw [← toList_objectRef, heq, toList_objectRef, Text.cutFirst_append h'] at hcut
  have hlist : type'.toList = type.toList := congrArg (·.1) (Option.some.inj hcut)
  exact (String.toList_inj.1 hlist).symm

/-- References to things of one type are equal when they are to the same thing. -/
theorem objectRef_inj {type id id' : String} : objectRef type id = objectRef type id' ↔ id = id' := by
  rw [← String.toList_inj, toList_objectRef, toList_objectRef, List.append_cancel_left_eq,
    List.cons_inj_right, String.toList_inj]

/-- Usersets of one type and one relation are equal when they belong to the same thing. -/
theorem usersetRef_inj {type relation id id' : String} :
    usersetRef type id relation = usersetRef type id' relation ↔ id = id' := by
  rw [← String.toList_inj, toList_usersetRef, toList_usersetRef, List.append_cancel_left_eq,
    List.cons_inj_right, List.append_cancel_right_eq, String.toList_inj]

namespace TypedRef

variable {type id relation : String}

/-- A reference is written as one to a thing of its type, the relation being part of the id. -/
theorem exists_render_eq (r : TypedRef) : ∃ id, r.render = objectRef r.type id := by
  rw [render]
  cases r.relation with
  | none => exact ⟨r.id, rfl⟩
  | some relation => exact ⟨_, usersetRef_eq_objectRef _ _ _⟩

/-- References are of one type when they are written alike and no type holds a colon. -/
theorem type_eq_of_render_eq {r r' : TypedRef} (h : ':' ∉ r.type.toList)
    (h' : ':' ∉ r'.type.toList) (heq : r.render = r'.render) : r.type = r'.type := by
  obtain ⟨id, hid⟩ := r.exists_render_eq
  obtain ⟨id', hid'⟩ := r'.exists_render_eq
  rw [hid, hid'] at heq
  exact eq_of_objectRef_eq h h' heq

/-- A thing is read back when its id holds no mark. -/
theorem parse?_objectRef (htype : ':' ∉ type.toList) (hne : type ≠ "") (hid : id ≠ "")
    (hmark : Unmarked id) : parse? (objectRef type id) = some { type, id } := by
  simp [parse?, toList_objectRef, Text.cutFirst_append htype, Text.cutLast_eq_none.2 hmark, hne, hid]

/-- A userset is read back whatever its id holds. -/
theorem parse?_usersetRef (htype : ':' ∉ type.toList) (hne : type ≠ "") (hid : id ≠ "")
    (hrelation : relation ≠ "") (hmark : Unmarked relation) :
    parse? (usersetRef type id relation) = some { type, id, relation := some relation } := by
  simp [parse?, toList_usersetRef, Text.cutFirst_append htype, Text.cutLast_append hmark, hne, hid,
    hrelation]

/-- A reference whose parts can be told apart in its text: the type ends at the first colon, and the
relation, or the id if there is none, holds no mark. -/
structure WellFormed (r : TypedRef) : Prop where
  type_ne : r.type ≠ ""
  colonless : ':' ∉ r.type.toList
  id_ne : r.id ≠ ""
  unmarked : r.relation = none → Unmarked r.id
  relation : ∀ q ∈ r.relation, q ≠ "" ∧ Unmarked q

/-- When a reference to an object can be read back. -/
theorem wellFormed_thing : WellFormed { type, id } ↔
    type ≠ "" ∧ ':' ∉ type.toList ∧ id ≠ "" ∧ Unmarked id := by
  constructor
  · rintro ⟨htype, hcolon, hid, hmark, -⟩
    exact ⟨htype, hcolon, hid, hmark rfl⟩
  · rintro ⟨htype, hcolon, hid, hmark⟩
    exact ⟨htype, hcolon, hid, fun _ => hmark, nofun⟩

/-- When a reference to the holders of a relation can. -/
theorem wellFormed_userset : WellFormed { type, id, relation := some relation } ↔
    type ≠ "" ∧ ':' ∉ type.toList ∧ id ≠ "" ∧ relation ≠ "" ∧ Unmarked relation := by
  constructor
  · rintro ⟨htype, hcolon, hid, -, hrelation⟩
    exact ⟨htype, hcolon, hid, hrelation relation rfl⟩
  · rintro ⟨htype, hcolon, hid, hrelation⟩
    refine ⟨htype, hcolon, hid, nofun, fun other h => ?_⟩
    cases h
    exact hrelation

/-- The references that are read from a text are the well-formed ones that are written as it. -/
theorem parse?_eq_some_iff {s : String} {r : TypedRef} :
    parse? s = some r ↔ r.WellFormed ∧ r.render = s := by
  constructor
  · intro h
    obtain ⟨⟨type, rest⟩, hcut, h⟩ := Option.bind_eq_some_iff.1 h
    have hs := Text.eq_of_cutFirst hcut
    have hcolon := Text.not_mem_of_cutFirst hcut
    dsimp only at h
    -- With a mark in the rest it is a userset, without one a thing.
    cases hmark : Text.cutLast '#' rest with
    | none =>
      simp only [hmark, Option.ite_none_left_eq_some] at h
      obtain ⟨hparts, h⟩ := h
      cases h
      refine ⟨wellFormed_thing.2 ?_, ?_⟩
      · simpa [Unmarked, hcolon, Text.cutLast_eq_none.1 hmark] using hparts
      · show objectRef (String.ofList type) (String.ofList rest) = s
        rw [← String.toList_inj, toList_objectRef, hs]
        simp
    | some cut =>
      obtain ⟨id, relation⟩ := cut
      simp only [hmark, Option.ite_none_left_eq_some] at h
      obtain ⟨hparts, h⟩ := h
      cases h
      refine ⟨wellFormed_userset.2 ?_, ?_⟩
      · simpa [Unmarked, hcolon, Text.not_mem_of_cutLast hmark, and_assoc] using hparts
      · show usersetRef (String.ofList type) (String.ofList id) (String.ofList relation) = s
        rw [← String.toList_inj, toList_usersetRef, hs, Text.eq_of_cutLast hmark]
        simp
  · rintro ⟨hr, rfl⟩
    obtain ⟨type, id, relation⟩ := r
    cases relation with
    | none => exact parse?_objectRef hr.colonless hr.type_ne hr.id_ne (hr.unmarked rfl)
    | some relation =>
      obtain ⟨hne, hmark⟩ := hr.relation relation rfl
      exact parse?_usersetRef hr.colonless hr.type_ne hr.id_ne hne hmark

/-- A reference is read back as it was just when it is well formed. -/
theorem parse?_render (r : TypedRef) : parse? r.render = some r ↔ r.WellFormed := by
  rw [parse?_eq_some_iff]
  exact and_iff_left rfl

/-- Whatever a reference is read as, it is of the type before the colon, and it is no thing when the
id holds a mark. -/
theorem of_parse?_objectRef (htype : ':' ∉ type.toList) {r : TypedRef}
    (h : parse? (objectRef type id) = some r) :
    r.type = type ∧ (r.relation = none → Unmarked id) := by
  obtain ⟨hr, hrender⟩ := parse?_eq_some_iff.1 h
  obtain ⟨type', id', relation⟩ := r
  cases relation with
  | none =>
    obtain rfl : type' = type := eq_of_objectRef_eq hr.colonless htype hrender
    obtain rfl : id' = id := objectRef_inj.1 hrender
    exact ⟨rfl, hr.unmarked⟩
  | some relation =>
    have hsame := (usersetRef_eq_objectRef type' id' relation).symm.trans hrender
    exact ⟨eq_of_objectRef_eq hr.colonless htype hsame, nofun⟩

/-- A text that is read as a reference is what the reference is written as. A thing is read back as it
was when its type, without a colon, and its id, without a mark, are not empty, and not otherwise; a
userset, when its relation is there and holds no mark, while its id may hold any. -/
theorem references_readBack (s type id relation : String) :
    (∀ r, parse? s = some r → r.render = s) ∧
    (parse? (objectRef type id) = some { type, id } ↔
      type ≠ "" ∧ ':' ∉ type.toList ∧ id ≠ "" ∧ '#' ∉ id.toList) ∧
    (parse? (usersetRef type id relation) = some { type, id, relation := some relation } ↔
      type ≠ "" ∧ ':' ∉ type.toList ∧ id ≠ "" ∧ relation ≠ "" ∧ '#' ∉ relation.toList) := by
  refine ⟨fun r h => (parse?_eq_some_iff.1 h).2, ?_, ?_⟩
  · exact (parse?_render { type, id }).trans wellFormed_thing
  · exact (parse?_render { type, id, relation := some relation }).trans wellFormed_userset

end TypedRef

end PolicySync
