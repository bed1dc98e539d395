import PolicySync.Json.Decode
import PolicySync.Proofs.Fallible

/-!
# What readers accept

The value of a field was read from what the field holds, unless it is the default of a field that is
left out. A list that was written item by item is read back item by item.
-/

namespace PolicySync.Json

open Fallible

variable {α : Type} {fields : Fields} {name : String} {read : Decoder α} {a : α}

/-- A field that was read, and must be there, has a value. -/
theorem of_required_eq_ok (h : required fields name read = .ok a) :
    ∃ v, fields name = some v ∧ read v = .ok a := by
  unfold required at h
  split at h
  · next v hfield => exact ⟨v, hfield, h⟩
  · cases h

/-- One with a default was there, or the default was taken. -/
theorem of_withDefault_eq_ok {default : α} (h : withDefault fields name default read = .ok a) :
    (∃ v, fields name = some v ∧ read v = .ok a) ∨ a = default := by
  unfold withDefault at h
  split at h
  · next v hfield => exact .inl ⟨v, hfield, h⟩
  · cases h
    exact .inr rfl

/-- One that may be missing was there, and not null, if something was read. -/
theorem of_optional_eq_ok (h : optional fields name read = .ok (some a)) :
    ∃ v, fields name = some v ∧ v ≠ .null ∧ read v = .ok a := by
  rcases of_withDefault_eq_ok h with ⟨v, hfield, hread⟩ | hnone
  · rw [nullable.eq_def] at hread
    split at hread
    · cases hread
    · next hnull =>
      obtain ⟨a', ha', heq⟩ := map_eq_ok.1 hread
      cases heq
      exact ⟨v, hfield, hnull, ha'⟩
  · cases hnone

/-- A value that was read is what remains of the one it was read from. -/
theorem settled?_of_settledValue_eq_ok {v : Value} {x : Settled} (h : settledValue v = .ok x) :
    v.settled? = some x.value := by
  unfold settledValue at h
  split at h
  · next y hy =>
    cases h
    exact Settled.settled?_of_of? hy
  · cases h

/-- A list is read back when its items are. -/
theorem listOf_map {encode : α → Value} (h : ∀ a, read (encode a) = .ok a) (as : List α) :
    listOf read (.list (as.map encode)) = .ok as := by
  have hitems := mapM_map_eq_ok h as
  rw [List.map_id'] at hitems
  exact hitems

end PolicySync.Json
