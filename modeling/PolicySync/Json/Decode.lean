import PolicySync.Json.Value

/-!
# Reading records from JSON

A record is written as an object, whose unknown fields are ignored, or as the list of its fields
in order, where fields at the end may be left out. `record` gives the view of its fields by name
that the readers `required`, `withDefault` and `optional` are built on. An object that is no record
is read through its list of fields: `single` finds a field that may come only once, and `lastOf`
one that may come several times and counts the last time.
-/

namespace PolicySync.Json

/-- Why a value is not what was asked for. -/
inductive DecodeError where
  | missing (field : String)
  | mismatch (expected : String)
  | surplus (limit : Nat)
  | repeated (field : String)
  | unreadable
  deriving DecidableEq, Repr

namespace DecodeError

/-- The cause in words. -/
def message : DecodeError → String
  | missing field => "missing field " ++ field
  | mismatch expected => "expected " ++ expected
  | surplus limit => s!"more than {limit} fields"
  | repeated field => "repeated field " ++ field
  | unreadable => "expected a value"

end DecodeError

/-- A reader of values. -/
abbrev Decoder (α : Type) := Value → Except DecodeError α

/-- The fields of a record by name. -/
abbrev Fields := String → Option Value

/-- The fields of a record whose field names in order are `names`, none of which may be repeated. -/
def record (names : List String) : Decoder Fields
  | .object fields =>
    match names.find? fun name => 1 < fields.countP (·.1 == name) with
    | some name => .error (.repeated name)
    | none => .ok (List.lookup · fields)
  | .list items =>
    if items.length ≤ names.length then .ok (List.lookup · (names.zip items))
    else .error (.surplus names.length)
  | _ => .error (.mismatch "a record")

/-- The fields of a record none of which may be left out of the list form. -/
def fullRecord (names : List String) : Decoder Fields
  | .list items =>
    if items.length < names.length then .error (.mismatch "every field")
    else record names (.list items)
  | v => record names v

/-- The fields of a record none of which may be left out of the list form, where more items may
follow. -/
def leadingRecord (names : List String) : Decoder Fields
  | .list items => fullRecord names (.list (items.take names.length))
  | v => record names v

/-- A field that has to be there. -/
def required (fields : Fields) (name : String) (read : Decoder α) : Except DecodeError α :=
  match fields name with
  | some v => read v
  | none => .error (.missing name)

/-- A field that stands for `default` when it is left out. -/
def withDefault (fields : Fields) (name : String) (default : α) (read : Decoder α) :
    Except DecodeError α :=
  match fields name with
  | some v => read v
  | none => .ok default

/-- A value that may be null. -/
def nullable (read : Decoder α) : Decoder (Option α)
  | .null => .ok none
  | v => (read v).map some

/-- A field that may be left out or null. -/
def optional (fields : Fields) (name : String) (read : Decoder α) :
    Except DecodeError (Option α) :=
  withDefault fields name none (nullable read)

/-- Any value as it is. -/
def value : Decoder Value := .ok

/-- Any value that can be read, of fields with one name the last. -/
def settled : Decoder Value := fun v =>
  match v.settled? with
  | some v => .ok v
  | none => .error .unreadable

/-- Any value that can be read, with the proof that nothing of it is dropped again. -/
def settledValue : Decoder Settled := fun v =>
  match Settled.of? v with
  | some x => .ok x
  | none => .error .unreadable

/-- A string. -/
def string : Decoder String
  | .str s => .ok s
  | _ => .error (.mismatch "a string")

/-- A truth value. -/
def boolean : Decoder Bool
  | .bool b => .ok b
  | _ => .error (.mismatch "a truth value")

/-- A whole number from zero up to but without `bound`. -/
def natural (bound : Nat) : Decoder Nat
  | .int n =>
    if 0 ≤ n ∧ n < bound then .ok n.toNat else .error (.mismatch s!"a number below {bound}")
  | _ => .error (.mismatch "a number")

/-- A whole number with a sign that fits 64 bits. -/
def integer : Decoder Int
  | .int n =>
    if -(Nat.pow 2 63) ≤ n ∧ n < Nat.pow 2 63 then .ok n
    else .error (.mismatch "a number of 64 bits")
  | _ => .error (.mismatch "a number")

/-- A list whose items are all read alike. -/
def listOf (read : Decoder α) : Decoder (List α)
  | .list items => items.mapM read
  | _ => .error (.mismatch "a list")

/-- The entries of an object, each value read alike. -/
def entriesOf (read : Decoder α) : Decoder (List (String × α))
  | .object fields => fields.mapM fun f => do return (f.1, ← read f.2)
  | _ => .error (.mismatch "an object")

/-- What the only field of a name holds, if there is one. -/
def single (fields : List (String × Value)) (name : String) : Except DecodeError (Option Value) :=
  match fields.filter (·.1 == name) with
  | [] => .ok none
  | [field] => .ok (some field.2)
  | _ => .error (.repeated name)

/-- What the last field of a name holds, if it is there and not null. Each of them is read. -/
def lastOf (fields : List (String × Value)) (name : String) (read : Decoder α) :
    Except DecodeError (Option α) := do
  let held ← (fields.filter (·.1 == name)).mapM fun field => nullable read field.2
  return held.getLast?.join

/-- Nothing but that every field of the names holds null or what `read` reads. -/
def formed (fields : List (String × Value)) (names : List String) (read : Decoder α) :
    Except DecodeError Unit :=
  names.forM fun name => discard (lastOf fields name read)

/-- A word of a fixed list, alone or as the only field of an object with a null value. -/
def choice (words : List (String × α)) : Decoder α := fun v =>
  let word? : Option String :=
    match v with
    | .str s => some s
    | .object [(s, .null)] => some s
    | _ => none
  match word?.bind (List.lookup · words) with
  | some a => .ok a
  | none => .error (.mismatch "a word of the list")

end PolicySync.Json
