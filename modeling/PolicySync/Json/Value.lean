/-!
# JSON values

The values that resources, tuples and settings are written as. An object is its list of fields, in
which a name may come more than once, as it may in a text. `Value.settled?` is the value that
remains when only the last field of each name counts, and a `Settled` value is one that remains
as it is.
-/

namespace PolicySync.Json

/-- A JSON value. -/
inductive Value where
  | null
  | bool (b : Bool)
  | int (n : Int)
  /-- A number that is not whole, or too large for a machine word, as text. -/
  | decimal (text : String)
  | str (s : String)
  | list (items : List Value)
  | object (fields : List (String × Value))
  /-- What is written as a value should be but stands for none. -/
  | unreadable
  deriving Inhabited, BEq, Repr

namespace Value

/-- The value of a field of an object. -/
def field? : Value → String → Option Value
  | .object fields, name => fields.lookup name
  | _, _ => none

/-- A field that is written only when it has a value. -/
def optionalField (name : String) : Option Value → List (String × Value)
  | some v => [(name, v)]
  | none => []

mutual

/-- The value with only the last field of each name, if every part of it stands for a value. -/
def settled? : Value → Option Value
  | .unreadable => none
  | .list items => do return .list (← settledItems? items)
  | .object fields => do return .object (← settledFields? fields)
  | v => some v

/-- The items of a list with only the last field of each name in them. -/
def settledItems? : List Value → Option (List Value)
  | [] => some []
  | v :: vs => do return (← settled? v) :: (← settledItems? vs)

/-- The last field of each name, in the order of those. -/
def settledFields? : List (String × Value) → Option (List (String × Value))
  | [] => some []
  | (name, v) :: rest => do
    let v ← settled? v
    let others ← settledFields? rest
    return if others.any (·.1 = name) then others else (name, v) :: others

end

mutual

/-- What remains of a value remains as it is. -/
theorem settled?_of_settled? {v w : Value} (h : v.settled? = some w) : w.settled? = some w := by
  cases v with
  | null | bool | int | decimal | str =>
    cases h
    rfl
  | unreadable => cases h
  | list items =>
    obtain ⟨ws, hws, h⟩ := Option.bind_eq_some_iff.1 h
    cases h
    rw [settled?, settledItems?_of_settledItems? hws]
    rfl
  | object fields =>
    obtain ⟨fs, hfs, h⟩ := Option.bind_eq_some_iff.1 h
    cases h
    rw [settled?, settledFields?_of_settledFields? hfs]
    rfl

/-- What remains of the items of a list remains as it is. -/
theorem settledItems?_of_settledItems? {vs ws : List Value} (h : settledItems? vs = some ws) :
    settledItems? ws = some ws := by
  cases vs with
  | nil =>
    cases h
    rfl
  | cons v vs =>
    obtain ⟨w, hw, h⟩ := Option.bind_eq_some_iff.1 h
    obtain ⟨ws, hws, h⟩ := Option.bind_eq_some_iff.1 h
    cases h
    rw [settledItems?, settled?_of_settled? hw, settledItems?_of_settledItems? hws]
    rfl

/-- What remains of the fields of an object remains as it is: a field is kept only when no later
one has its name, so none is dropped from what was kept. -/
theorem settledFields?_of_settledFields? {fields fs : List (String × Value)}
    (h : settledFields? fields = some fs) : settledFields? fs = some fs := by
  cases fields with
  | nil =>
    cases h
    rfl
  | cons field rest =>
    obtain ⟨name, v⟩ := field
    obtain ⟨w, hw, h⟩ := Option.bind_eq_some_iff.1 h
    obtain ⟨others, hothers, h⟩ := Option.bind_eq_some_iff.1 h
    have hkept := settledFields?_of_settledFields? hothers
    cases h
    split
    · exact hkept
    · next hlast =>
      rw [settledFields?, settled?_of_settled? hw, hkept]
      exact congrArg some (if_neg hlast)

end

/-- Nothing but null becomes null. -/
theorem eq_null_of_settled? {v : Value} (h : v.settled? = some .null) : v = .null := by
  cases v with
  | null => rfl
  | bool | int | decimal | str | unreadable => cases h
  | list items =>
    obtain ⟨ws, -, h⟩ := Option.bind_eq_some_iff.1 h
    cases h
  | object fields =>
    obtain ⟨fs, -, h⟩ := Option.bind_eq_some_iff.1 h
    cases h

end Value

/-- A value every part of which stands for a value, and none of whose objects has a name twice. -/
structure Settled where
  value : Value
  settled : value.settled? = some value

namespace Settled

instance : Inhabited Settled := ⟨.null, rfl⟩

@[ext]
theorem ext {x y : Settled} (h : x.value = y.value) : x = y := by
  cases x
  cases y
  cases h
  rfl

/-- What remains of a value, if every part of it stands for a value. -/
def of? (v : Value) : Option Settled :=
  match h : v.settled? with
  | some w => some ⟨w, Value.settled?_of_settled? h⟩
  | none => none

/-- It is the value that remains. -/
theorem settled?_of_of? {v : Value} {x : Settled} (h : of? v = some x) :
    v.settled? = some x.value := by
  unfold of? at h
  split at h
  · next w hw =>
    cases h
    exact hw
  · cases h

/-- What is settled already remains as it is. -/
theorem of?_value (x : Settled) : of? x.value = some x := by
  unfold of?
  split
  · next w h =>
    rw [x.settled] at h
    exact congrArg some (ext (Option.some.inj h).symm)
  · next h =>
    rw [x.settled] at h
    cases h

end Settled

end PolicySync.Json
