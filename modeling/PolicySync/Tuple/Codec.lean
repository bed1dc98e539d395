import PolicySync.Json.Decode
import PolicySync.Tuple.Basic

/-!
# Tuples as JSON

A tuple is an object with the three parts of its key beside its condition. Unlike other records a
tuple has no list form, and its unknown fields have to be readable: they are looked at before it is
known that they do not belong to the key. A null context says the same as no context, and of the
fields of a context that have one name the last counts.
-/

namespace PolicySync

open Json (Value Decoder)

namespace TupleKey

/-- The fields of a key as JSON. -/
def encodeFields (k : TupleKey) : List (String × Value) :=
  [("user", .str k.user), ("relation", .str k.relation), ("object", .str k.object)]

/-- A key as JSON. -/
def encode (k : TupleKey) : Value := .object k.encodeFields

/-- A key from the fields of a record. -/
def ofFields (fields : Json.Fields) : Except Json.DecodeError TupleKey := do
  return {
    user := ← Json.required fields "user" Json.string
    relation := ← Json.required fields "relation" Json.string
    object := ← Json.required fields "object" Json.string }

/-- A key from JSON. -/
def decode : Decoder TupleKey := fun v => do
  ofFields (← Json.record ["user", "relation", "object"] v)

end TupleKey

namespace Condition

/-- A condition as JSON. -/
def encode (c : Condition) : Value :=
  .object (("name", .str c.name) :: Value.optionalField "context" (c.context.map (·.value)))

/-- A condition from JSON. -/
def decode : Decoder Condition := fun v => do
  let fields ← Json.record ["name", "context"] v
  return {
    name := ← Json.required fields "name" Json.string
    context := ← Json.optional fields "context" Json.settledValue }

end Condition

namespace Tuple

/-- A tuple as JSON. -/
def encode (t : Tuple) : Value :=
  .object (t.key.encodeFields ++ Value.optionalField "condition" (t.condition.map (·.encode)))

/-- A tuple from JSON. -/
def decode : Decoder Tuple
  | .object fields => do
    let known ← Json.record ["user", "relation", "object", "condition"] (.object fields)
    discard (Json.settled (.object (fields.filter (·.1 != "condition"))))
    return {
      key := ← TupleKey.ofFields known
      condition := ← Json.optional known "condition" Condition.decode }
  | _ => .error (.mismatch "an object")

end Tuple

end PolicySync
