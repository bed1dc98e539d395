import PolicySync.Proofs.Json.Decode
import PolicySync.Tuple.Codec

/-!
# Tuples read back

A tuple that is written as JSON and read again is the same tuple, but that a condition with the context
null has lost it: null says that there is no context (`Tuple.decode_encode`). A context is settled, so
that nothing else of it is dropped when it is read again. No tuple that was read has a null context, so
from then on nothing is lost (`Tuple.withoutNull_of_decode`).
-/

namespace PolicySync

open Fallible

/-- A key written as JSON is read back as it was. -/
theorem TupleKey.decode_encode (k : TupleKey) : decode k.encode = .ok k := rfl

/-! ## Conditions -/

/-- A settled value other than null is read back as it was. -/
theorem Json.nullable_settledValue {x : Json.Settled} (h : x.value ≠ .null) :
    Json.nullable Json.settledValue x.value = .ok (some x) := by
  have hread : Json.settledValue x.value = .ok x := by
    rw [Json.settledValue, x.of?_value]
  rw [Json.nullable.eq_2 _ _ h, hread]
  rfl

namespace Condition

/-- The condition has a context, and that is null. -/
def HasNullContext (c : Condition) : Prop := c.context.map (·.value) = some .null

/-- The condition with nothing in place of a null context. -/
def withoutNull (c : Condition) : Condition :=
  match c.context with
  | some ⟨.null, _⟩ => { c with context := none }
  | _ => c

/-- A condition loses nothing just when its context is not null. -/
theorem withoutNull_eq_iff {c : Condition} : c.withoutNull = c ↔ ¬ c.HasNullContext := by
  obtain ⟨name, context⟩ := c
  cases context with
  | none => simp [withoutNull, HasNullContext]
  | some x =>
    obtain ⟨v, hv⟩ := x
    cases v <;> simp [withoutNull, HasNullContext]

/-- A condition written as JSON is read back without a null context. -/
theorem decode_encode (c : Condition) : decode c.encode = .ok c.withoutNull := by
  by_cases hnull : c.HasNullContext
  · obtain ⟨name, context⟩ := c
    obtain ⟨⟨v, hv⟩, rfl, rfl⟩ := Option.map_eq_some_iff.1 hnull
    rfl
  · rw [withoutNull_eq_iff.2 hnull]
    obtain ⟨name, context⟩ := c
    cases context with
    | none => rfl
    | some x =>
      have hcontext := Json.nullable_settledValue fun h => hnull (congrArg some h)
      exact bind_eq_ok.2 ⟨_, rfl, bind_eq_ok.2 ⟨name, rfl, bind_eq_ok.2 ⟨some x, hcontext, rfl⟩⟩⟩

/-- No condition that was read has a null context. -/
theorem withoutNull_of_decode {v : Json.Value} {c : Condition} (h : decode v = .ok c) :
    c.withoutNull = c := by
  obtain ⟨fields, -, h⟩ := bind_eq_ok.1 h
  obtain ⟨name, -, h⟩ := bind_eq_ok.1 h
  obtain ⟨context, hcontext, h⟩ := bind_eq_ok.1 h
  obtain rfl := pure_eq_ok.1 h
  rw [withoutNull_eq_iff]
  intro hnull
  obtain ⟨x, rfl, hx⟩ := Option.map_eq_some_iff.1 hnull
  obtain ⟨v', -, hv', hread⟩ := Json.of_optional_eq_ok hcontext
  -- Only null becomes null, and null was taken for no context.
  exact hv' (Json.Value.eq_null_of_settled? (hx ▸ Json.settled?_of_settledValue_eq_ok hread))

end Condition

/-! ## Tuples -/

namespace Tuple

/-- The tuple whose condition has nothing in place of a null context. -/
def withoutNull (t : Tuple) : Tuple := { t with condition := t.condition.map (·.withoutNull) }

/-- The tuple has a condition whose context is null. -/
def HasNullContext (t : Tuple) : Prop := ∃ c, t.condition = some c ∧ c.HasNullContext

/-- A tuple loses nothing just when it has no null context. -/
theorem withoutNull_eq_iff {t : Tuple} : t.withoutNull = t ↔ ¬ t.HasNullContext := by
  obtain ⟨key, condition⟩ := t
  cases condition with
  | none => simp [withoutNull, HasNullContext]
  | some c => simp [withoutNull, HasNullContext, Condition.withoutNull_eq_iff]

/-- A tuple written as JSON is read back without a null context. -/
theorem decode_encode (t : Tuple) : decode t.encode = .ok t.withoutNull := by
  obtain ⟨key, condition⟩ := t
  cases condition with
  | none => rfl
  | some c =>
    have hcondition : (Condition.decode c.encode).map some = .ok (some c.withoutNull) := by
      rw [c.decode_encode]
      rfl
    exact bind_eq_ok.2 ⟨_, rfl, bind_eq_ok.2 ⟨_, rfl, bind_eq_ok.2 ⟨key, rfl,
      bind_eq_ok.2 ⟨some c.withoutNull, hcondition, rfl⟩⟩⟩⟩

/-- No tuple that was read has a null context. -/
theorem withoutNull_of_decode {v : Json.Value} {t : Tuple} (h : decode v = .ok t) :
    t.withoutNull = t := by
  unfold decode at h
  split at h
  · obtain ⟨known, -, h⟩ := bind_eq_ok.1 h
    obtain ⟨-, -, h⟩ := bind_eq_ok.1 h
    obtain ⟨key, -, h⟩ := bind_eq_ok.1 h
    obtain ⟨condition, hcondition, h⟩ := bind_eq_ok.1 h
    obtain rfl := pure_eq_ok.1 h
    rw [withoutNull_eq_iff]
    rintro ⟨c, rfl, hnull⟩
    obtain ⟨v', -, -, hread⟩ := Json.of_optional_eq_ok hcondition
    exact Condition.withoutNull_eq_iff.1 (Condition.withoutNull_of_decode hread) hnull
  · cases h

end Tuple

end PolicySync
