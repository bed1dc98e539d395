import PolicySync.Page
import PolicySync.Tuple.Batch
import PolicySync.Tuple.Codec

/-!
# Bodies of the tuple service

What the tuple service is sent and what it sends back, as JSON. A write request leaves out the
side on which there is nothing to do, since the service refuses an empty list of keys.
-/

namespace PolicySync.TupleService

open Json (Value Decoder)

/-- A store of the service. -/
structure Store where
  id : String
  name : String
  deriving DecidableEq, Repr

/-- A store from JSON. -/
def Store.decode : Decoder Store := fun v => do
  let fields ← Json.record ["id", "name"] v
  return {
    id := ← Json.required fields "id" Json.string
    name := ← Json.required fields "name" Json.string }

/-- A page from JSON, whose items stand in the field `name`. The token stays as it is. -/
def decodePage (name : String) (item : Decoder α) : Decoder (Page α) := fun v => do
  let fields ← Json.record [name, "continuation_token"] v
  return {
    items := ← Json.withDefault fields name [] (Json.listOf item)
    next := ← Json.optional fields "continuation_token" Json.string }

/-- A page of stores from JSON. -/
def decodeStores : Decoder (Page Store) := decodePage "stores" Store.decode

/-- A page of tuples from JSON, each with what the service knows about it beside its key. -/
def decodeTuples : Decoder (Page Tuple) :=
  decodePage "tuples" fun v => do
    Json.required (← Json.record ["key"] v) "key" Tuple.decode

/-- The body of a request to create a store. -/
def encodeCreate (name : String) : Value := .object [("name", .str name)]

/-- The body of a request for a page of tuples. -/
def encodeRead (pageSize : Nat) (token : Option String) : Value :=
  .object (("page_size", .int pageSize)
    :: Value.optionalField "continuation_token" (token.map .str))

/-- One side of a write request, unless it is empty. -/
def encodeSide (name : String) (keys : List Value) : List (String × Value) :=
  if keys.isEmpty then [] else [(name, .object [("tuple_keys", .list keys)])]

/-- The body of a request to make the changes of a batch, under an authorization model if one is
named. -/
def encodeWrite (batch : Batch) (modelId : Option String) : Value :=
  .object (encodeSide "writes" (batch.writes.map Tuple.encode)
    ++ encodeSide "deletes" (batch.deletes.map TupleKey.encode)
    ++ Value.optionalField "authorization_model_id" (modelId.map .str))

end PolicySync.TupleService
