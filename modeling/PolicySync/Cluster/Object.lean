import PolicySync.Cluster.Metadata
import PolicySync.Page
import PolicySync.Pass.Error
import PolicySync.Resource.Codec

/-!
# Objects of a cluster

A cluster keeps resources as objects of which only the name, the namespace and the specification
matter here. `Object.resource` reads an object as a resource of a given kind: it writes down these
three as a resource is written and reads that. Without a specification the object is read as one
that leaves everything out. The namespaces of a cluster are objects as well, and both come in pages.
-/

namespace PolicySync.Cluster

open Json (Value Decoder)

/-- An object, of whose metadata only the names matter. -/
structure Object where
  name : Option String := none
  space : Option String := none
  /-- What the object holds beside its metadata. -/
  data : Value := .null

namespace Object

/-- An object from JSON. Its metadata come once at most and have to have their form; whatever else
it holds only has to be readable. -/
def decode : Decoder Object := fun v => do
  let fields ← Json.entriesOf Json.value v
  let (name, space) ←
    match ← Json.single fields "metadata" with
    | some metadata => decodeNames metadata
    | none => pure (none, none)
  let data ← Json.settled (.object (fields.filter (·.1 != "metadata")))
  return { name, space, data }

/-- The specification, which is empty when it is missing. -/
def spec (o : Object) : Value :=
  match o.data.field? "spec" with
  | some .null => .object []
  | some spec => spec
  | none => .object []

/-- The object as a resource is written. -/
def asResource (o : Object) : Value :=
  .object [
    ("metadata", .object [
      ("name", .str (o.name.getD "")),
      ("namespace", (o.space.map .str).getD .null)]),
    ("spec", o.spec)]

/-- The resource of a kind that an object stands for. -/
def resource (kind : ResourceKind) (o : Object) : Except ListError Resource :=
  (Resource.decode kind o.asResource).mapError fun e =>
    .decode kind (o.name.getD "") e.message

end Object

/-- The form of what a namespace is to hold. -/
def checkNamespaceSpec : Decoder Unit := fun v => do
  let fields ← Json.entriesOf Json.value v
  Json.formed fields ["finalizers"] (Json.listOf Json.string)

/-- The form of a condition that a namespace is in. -/
def checkCondition : Decoder Unit := fun v => do
  let fields ← Json.entriesOf Json.value v
  Json.formed fields ["message", "reason", "status", "type"] Json.string
  Json.formed fields ["lastTransitionTime"] decodeMoment

/-- The form of the state that a namespace is in. -/
def checkNamespaceStatus : Decoder Unit := fun v => do
  let fields ← Json.entriesOf Json.value v
  Json.formed fields ["phase"] Json.string
  Json.formed fields ["conditions"] (Json.listOf checkCondition)

/-- Nothing but that every field of a name holds one text. -/
def checkFixed (fields : List (String × Value)) (name expected : String) :
    Except Json.DecodeError Unit :=
  (fields.filter (·.1 == name)).forM fun field => do
    if (← Json.string field.2) ≠ expected then throw (.mismatch expected)

/-- The name of a namespace from JSON. Every version and every kind it states has to be the right
one. -/
def decodeNamespace : Decoder (Option String) := fun v => do
  let fields ← Json.entriesOf Json.value v
  checkFixed fields "apiVersion" "v1"
  checkFixed fields "kind" "Namespace"
  Json.formed fields ["spec"] checkNamespaceSpec
  Json.formed fields ["status"] checkNamespaceStatus
  return (← Json.lastOf fields "metadata" decodeNames).bind (·.1)

/-- A page of objects from JSON, which has to have items, if only null. -/
def decodePage (item : Decoder α) : Decoder (Page α) := fun v => do
  let fields ← Json.entriesOf Json.value v
  discard (Json.settled (.object (fields.filter fun f => f.1 != "metadata" && f.1 != "items")))
  let next ←
    match ← Json.single fields "metadata" with
    | some metadata => decodeContinue metadata
    | none => pure none
  match ← Json.single fields "items" with
  | some items =>
    return {
      items := (← Json.nullable (Json.listOf item) items).getD []
      next := nextToken next }
  | none => throw (.missing "items")

end PolicySync.Cluster
