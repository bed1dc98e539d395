import Mathlib.Data.List.Forall2
import PolicySync.Json.Decode

/-!
# The order of fields

The fields of an object have no order, while a `Value` lists them in one. `Value.Reordered` relates
values that differ in the order of fields only, in the objects inside them as well. A reader that
looks its fields up by name cannot tell such values apart (`Respects`): a name that comes once has the
same value in any order, and one that comes several times is refused.
-/

namespace PolicySync.Json

/-- The first value is the second one with the fields of its objects in another order, at every
level. -/
inductive Value.Reordered : Value → Value → Prop
  | refl (v : Value) : Reordered v v
  | list {vs ws : List Value} (h : vs.Forall₂ Reordered ws) : Reordered (.list vs) (.list ws)
  /-- The values of the fields are reordered inside, and then the fields themselves. -/
  | object {fields inside fs : List (String × Value)}
      (hnames : fields.map Prod.fst = inside.map Prod.fst)
      (hvalues : (fields.map Prod.snd).Forall₂ Reordered (inside.map Prod.snd))
      (horder : inside.Perm fs) : Reordered (.object fields) (.object fs)

open Value (Reordered)

/-- Null has only one order. -/
theorem Value.Reordered.eq_null {w : Value} (h : Reordered .null w) : w = .null := by
  cases h
  rfl

variable {α β : Type} {v w : Value} {fields inside fs : List (String × Value)} {name : String}
  {names : List String}

/-! ## Looking a field up -/

/-- A name has a value in both or in none, and the two values differ in the order of fields only. -/
abbrev AlikeAt (f g : Fields) (name : String) : Prop := Option.Rel Reordered (f name) (g name)

/-- Looking a name up finds the first field of it. -/
theorem lookup_eq_head?_filter (fields : List (String × Value)) (name : String) :
    fields.lookup name = (fields.filter (·.1 == name)).head?.map (·.2) := by
  induction fields with
  | nil => rfl
  | cons field rest ih =>
    by_cases hfield : field.1 = name
    · rw [List.lookup_cons, List.filter_cons_of_pos (by simpa using hfield), hfield,
        beq_self_eq_true]
      rfl
    · rw [List.lookup_cons, beq_false_of_ne (Ne.symm hfield),
        List.filter_cons_of_neg (by simpa using hfield)]
      exact ih

/-- A name that comes once at most is looked up in any order. -/
theorem lookup_of_perm (horder : inside.Perm fs) (hname : fs.countP (·.1 == name) ≤ 1) :
    inside.lookup name = fs.lookup name := by
  have hfields := horder.filter (·.1 == name)
  rw [List.countP_eq_length_filter] at hname
  rw [lookup_eq_head?_filter, lookup_eq_head?_filter]
  -- Lists of one item at most that have the same items are equal.
  generalize fs.filter (·.1 == name) = found at hfields hname
  cases found with
  | nil => rw [hfields.eq_nil]
  | cons field rest =>
    obtain rfl : rest = [] := List.length_eq_zero_iff.1 (Nat.le_zero.1 (Nat.le_of_succ_le_succ hname))
    rw [List.perm_singleton.1 hfields]

/-- Fields of the same names, with values that are reordered inside, are alike at every name. -/
theorem alikeAt_lookup (hnames : fields.map Prod.fst = inside.map Prod.fst)
    (hvalues : (fields.map Prod.snd).Forall₂ Reordered (inside.map Prod.snd)) :
    AlikeAt (List.lookup · fields) (List.lookup · inside) name := by
  induction fields generalizing inside with
  | nil =>
    cases inside with
    | nil => exact .none
    | cons g inside => cases hnames
  | cons f fields ih =>
    cases inside with
    | nil => cases hnames
    | cons g inside =>
      obtain ⟨hname, hnames⟩ := List.cons.inj hnames
      obtain ⟨hvalue, hvalues⟩ := List.forall₂_cons.1 hvalues
      have hrest := ih hnames hvalues
      obtain ⟨f, v⟩ := f
      obtain ⟨g, w⟩ := g
      cases hname
      dsimp only [AlikeAt] at hrest ⊢
      rw [List.lookup_cons, List.lookup_cons]
      -- The first field of the name is at the same place in both.
      split
      · exact .some hvalue
      · exact hrest

/-- The fields of a list form are alike when its items are. -/
theorem alikeAt_zip {vs ws : List Value} (h : vs.Forall₂ Reordered ws) :
    AlikeAt (List.lookup · (names.zip vs)) (List.lookup · (names.zip ws)) name := by
  induction h generalizing names with
  | nil =>
    rw [List.zip_nil_right]
    exact .none
  | cons hvalue hrest ih =>
    cases names with
    | nil => exact .none
    | cons first names =>
      have hrest := @ih names
      dsimp only [AlikeAt] at hrest ⊢
      rw [List.zip_cons_cons, List.zip_cons_cons, List.lookup_cons, List.lookup_cons]
      split
      · exact .some hvalue
      · exact hrest

/-! ## Records -/

/-- Names that are the same in another order come equally often. -/
theorem countP_of_reordered (hnames : fields.map Prod.fst = inside.map Prod.fst)
    (horder : inside.Perm fs) (name : String) :
    fields.countP (·.1 == name) = fs.countP (·.1 == name) := by
  rw [← horder.countP_eq]
  have hcount : ∀ l : List (String × Value),
      l.countP (·.1 == name) = (l.map Prod.fst).countP (· == name) := by
    intro l
    rw [List.countP_map]
    rfl
  rw [hcount, hcount, hnames]

/-- What is done with the fields of a record does not depend on their order when it cannot tell
fields apart that are alike at the names of the record. -/
theorem record_bind_congr {read : Fields → Except DecodeError β} (h : Reordered v w)
    (hread : ∀ f g, (∀ name ∈ names, AlikeAt f g name) → read f = read g) :
    (record names v >>= read) = (record names w >>= read) := by
  cases h with
  | refl => rfl
  | @list vs ws hitems =>
    dsimp only [record]
    rw [hitems.length_eq]
    split
    · exact hread _ _ fun _ _ => alikeAt_zip hitems
    · rfl
  | @object fields inside fs hnames hvalues horder =>
    have hcount := countP_of_reordered hnames horder
    simp only [record, hcount]
    split
    · rfl
    · next hfind =>
      refine hread _ _ fun name hname => ?_
      -- No name of the record comes twice, or the record would have been refused.
      have hone : fs.countP (·.1 == name) ≤ 1 := by
        simpa using List.find?_eq_none.1 hfind name hname
      have halike : AlikeAt (List.lookup · fields) (List.lookup · inside) name :=
        alikeAt_lookup hnames hvalues
      dsimp only [AlikeAt] at halike ⊢
      rwa [lookup_of_perm horder hone] at halike

/-! ## Readers -/

/-- A reader does not depend on the order of fields. -/
def Respects (read : Decoder α) : Prop := ∀ ⦃v w⦄, Reordered v w → read v = read w

/-- A text has no fields. -/
theorem respects_string : Respects string := by
  intro v w h
  cases h <;> rfl

/-- Whatever may be null is read in any order if it is read so when it is not. -/
theorem respects_nullable {read : Decoder α} (hread : Respects read) :
    Respects (nullable read) := by
  intro v w h
  have hvalue := hread h
  cases h with
  | refl => rfl
  | list | object => exact congrArg (Except.map some) hvalue

/-- The items of a list keep their order, and each is read in any order of fields. -/
theorem respects_listOf {read : Decoder α} (hread : Respects read) : Respects (listOf read) := by
  intro v w h
  cases h with
  | refl => rfl
  | object => rfl
  | @list vs ws hitems =>
    dsimp only [listOf]
    induction hitems with
    | nil => rfl
    | cons hitem _ ih => rw [List.mapM_cons, List.mapM_cons, hread hitem, ih]

/-- An object of several fields is no word. -/
theorem choice_object_of_many {words : List (String × α)} (h : 1 < fields.length) :
    choice words (.object fields) = .error (.mismatch "a word of the list") := by
  match fields, h with
  | (_, .null) :: _ :: _, _ | (_, .bool _) :: _ :: _, _ | (_, .int _) :: _ :: _, _
  | (_, .decimal _) :: _ :: _, _ | (_, .str _) :: _ :: _, _ | (_, .list _) :: _ :: _, _
  | (_, .object _) :: _ :: _, _ | (_, .unreadable) :: _ :: _, _ => rfl

/-- One of several words is a text. -/
theorem respects_choice {words : List (String × α)} : Respects (choice words) := by
  intro v w h
  cases h with
  | refl => rfl
  | list => rfl
  | @object fields inside fs hnames hvalues horder =>
    -- Only an object of one field can be a word, and one field has one order.
    match fields, inside, hnames, hvalues with
    | [], [], _, _ => rw [horder.nil_eq]
    | [(s, a)], [(t, b)], hnames, hvalues =>
      obtain rfl : s = t := List.cons.inj hnames |>.1
      obtain rfl := List.singleton_perm.1 horder
      cases (List.forall₂_cons.1 hvalues).1 <;> rfl
    | _ :: _ :: _, _ :: _ :: _, _, _ =>
      rw [choice_object_of_many (by simp), choice_object_of_many]
      rw [← horder.length_eq]
      simp

/-! ## Fields of a record -/

variable {f g : Fields} {read : Decoder α}

/-- A field that must be there is read alike. -/
theorem required_congr (h : AlikeAt f g name) (hread : Respects read) :
    required f name read = required g name read := by
  unfold required
  dsimp only [AlikeAt] at h
  generalize f name = a, g name = b at h
  cases h with
  | none => rfl
  | some hvalue => exact hread hvalue

/-- So is one with a default. -/
theorem withDefault_congr {default : α} (h : AlikeAt f g name) (hread : Respects read) :
    withDefault f name default read = withDefault g name default read := by
  unfold withDefault
  dsimp only [AlikeAt] at h
  generalize f name = a, g name = b at h
  cases h with
  | none => rfl
  | some hvalue => exact hread hvalue

/-- So is one that may be missing. -/
theorem optional_congr (h : AlikeAt f g name) (hread : Respects read) :
    optional f name read = optional g name read :=
  withDefault_congr h (respects_nullable hread)

end PolicySync.Json
