import PolicySync.Proofs.Tuple.Batch
import PolicySync.Proofs.Tuple.Codec
import PolicySync.TupleService.Wire

/-!
# Bodies of write requests

`WellFormed` is what the service asks of the body of a request to make the changes of a batch, and what
it has to read out of it. The body is looked at from outside, as a value with fields, whatever wrote it.
The bodies that are written for the batches of a difference are well formed
(`wellFormed_of_mem_batches`).
-/

namespace PolicySync.TupleService

open Json (Value)
open Fallible

/-- The keys on a side of the body of a write request. -/
def sideKeys (body : Value) (side : String) : List Value :=
  match (body.field? side).bind (·.field? "tuple_keys") with
  | some (.list keys) => keys
  | _ => []

/-- The body of a request that makes the changes of a batch, at most as many as the limit says, is one
that the service accepts, and it says what the batch does. -/
structure WellFormed (limit : Nat) (batch : Batch) (modelId : Option String) (body : Value) :
    Prop where
  /-- It is an object with no fields but these, none of them twice. -/
  fields : ∃ fields, body = .object fields ∧
    (fields.map (·.1)).Sublist ["writes", "deletes", "authorization_model_id"]
  model : body.field? "authorization_model_id" = modelId.map .str
  nonempty : 1 ≤ (sideKeys body "writes").length + (sideKeys body "deletes").length
  bounded : (sideKeys body "writes").length + (sideKeys body "deletes").length ≤ max limit 1
  hasWrites : (body.field? "writes").isSome ↔ batch.writes ≠ []
  hasDeletes : (body.field? "deletes").isSome ↔ batch.deletes ≠ []
  /-- A side that is there is an object with a list of keys that is not empty, and nothing else. -/
  filled : ∀ side ∈ ["writes", "deletes"], ∀ v, body.field? side = some v →
    ∃ key keys, v = .object [("tuple_keys", .list (key :: keys))]
  unconditional : ∀ key ∈ sideKeys body "deletes", key.field? "condition" = none
  distinct : ∃ keys, (sideKeys body "writes" ++ sideKeys body "deletes").mapM TupleKey.decode =
    .ok keys ∧ keys.Nodup
  deletes : (sideKeys body "deletes").mapM TupleKey.decode = .ok batch.deletes
  /-- The tuples to write are read back with their conditions, of which a null context is lost. -/
  writes : (sideKeys body "writes").mapM Tuple.decode = .ok (batch.writes.map Tuple.withoutNull)
  writesExactly : (∀ t ∈ batch.writes, ¬ t.HasNullContext) →
    (sideKeys body "writes").mapM Tuple.decode = .ok batch.writes

/-! ## The fields of a body -/

/-- A field that may be missing is found under its name only. -/
theorem lookup_optionalField (name other : String) (v : Option Value) :
    (Value.optionalField name v).lookup other = if other = name then v else none := by
  cases v with
  | none => simp [Value.optionalField]
  | some v =>
    by_cases hname : other = name
    · simp [Value.optionalField, hname]
    · simp [Value.optionalField, List.lookup_cons, hname, beq_eq_false_iff_ne.2 hname]

/-- It has no other name. -/
theorem names_optionalField (name : String) (v : Option Value) :
    ((Value.optionalField name v).map (·.1)).Sublist [name] := by
  cases v with
  | none => exact List.nil_sublist _
  | some v => exact .refl _

/-- What a side with some keys holds, unless it is left out. -/
def sideBody : List Value → Option Value
  | [] => none
  | key :: keys => some (.object [("tuple_keys", .list (key :: keys))])

/-- A side is written just when it has keys. -/
theorem isSome_sideBody {keys : List Value} : (sideBody keys).isSome ↔ keys ≠ [] := by
  cases keys <;> simp [sideBody]

/-- A side that is written has a key. -/
theorem of_sideBody_eq_some {keys : List Value} {v : Value} (h : sideBody keys = some v) :
    ∃ key keys, v = .object [("tuple_keys", .list (key :: keys))] := by
  cases keys with
  | nil => cases h
  | cons key keys =>
    cases h
    exact ⟨key, keys, rfl⟩

/-- The keys of a side are read from its field. -/
theorem sideKeys_of_field? {body : Value} {side : String} {keys : List Value}
    (h : body.field? side = sideBody keys) : sideKeys body side = keys := by
  rw [sideKeys, h]
  cases keys <;> rfl

section Fields

variable (batch : Batch) (modelId : Option String)

/-- The body has the two sides and the model, each when it is there. -/
theorem encodeWrite_eq : encodeWrite batch modelId =
    .object (Value.optionalField "writes" (sideBody (batch.writes.map Tuple.encode)) ++
      (Value.optionalField "deletes" (sideBody (batch.deletes.map TupleKey.encode)) ++
        Value.optionalField "authorization_model_id" (modelId.map .str))) := by
  have hside : ∀ name keys, encodeSide name keys = Value.optionalField name (sideBody keys) := by
    intro name keys
    cases keys <;> rfl
  rw [encodeWrite, hside, hside, List.append_assoc]

/-- The field of what is written. -/
theorem field?_writes : (encodeWrite batch modelId).field? "writes" =
    sideBody (batch.writes.map Tuple.encode) := by
  simp [encodeWrite_eq, Value.field?, List.lookup_append, lookup_optionalField]

/-- The field of what is deleted. -/
theorem field?_deletes : (encodeWrite batch modelId).field? "deletes" =
    sideBody (batch.deletes.map TupleKey.encode) := by
  simp [encodeWrite_eq, Value.field?, List.lookup_append, lookup_optionalField]

/-- The field of the model. -/
theorem field?_modelId : (encodeWrite batch modelId).field? "authorization_model_id" =
    modelId.map .str := by
  simp [encodeWrite_eq, Value.field?, List.lookup_append, lookup_optionalField]

/-- The written keys are those of the batch, in order. -/
theorem sideKeys_writes : sideKeys (encodeWrite batch modelId) "writes" =
    batch.writes.map Tuple.encode :=
  sideKeys_of_field? (field?_writes batch modelId)

/-- So are the deleted ones. -/
theorem sideKeys_deletes : sideKeys (encodeWrite batch modelId) "deletes" =
    batch.deletes.map TupleKey.encode :=
  sideKeys_of_field? (field?_deletes batch modelId)

end Fields

/-! ## Well-formed bodies -/

/-- The key of a tuple is read out of the tuple, whose condition is then a field that is not known. -/
theorem decode_key_encode (t : Tuple) : TupleKey.decode t.encode = .ok t.key := by
  obtain ⟨key, condition⟩ := t
  cases condition <;> rfl

/-- The body for a batch of a proper size that is about no key twice is well formed. -/
theorem wellFormed_encodeWrite {limit : Nat} {batch : Batch} (modelId : Option String)
    (hsize : 1 ≤ batch.size ∧ batch.size ≤ max limit 1) (hkeys : batch.keys.Nodup) :
    WellFormed limit batch modelId (encodeWrite batch modelId) := by
  -- Each property is about the keys of the two sides, which are those of the batch.
  have hlength : (sideKeys (encodeWrite batch modelId) "writes").length +
      (sideKeys (encodeWrite batch modelId) "deletes").length = batch.size := by
    rw [sideKeys_writes, sideKeys_deletes, List.length_map, List.length_map, Batch.size]
  have hwrites : (sideKeys (encodeWrite batch modelId) "writes").mapM Tuple.decode =
      .ok (batch.writes.map Tuple.withoutNull) := by
    rw [sideKeys_writes]
    exact mapM_map_eq_ok Tuple.decode_encode _
  have hdeletes : (sideKeys (encodeWrite batch modelId) "deletes").mapM TupleKey.decode =
      .ok batch.deletes := by
    rw [sideKeys_deletes, mapM_map_eq_ok TupleKey.decode_encode, List.map_id']
  exact {
    fields := by
      refine ⟨_, encodeWrite_eq batch modelId, ?_⟩
      rw [List.map_append, List.map_append]
      exact (names_optionalField _ _).append
        ((names_optionalField _ _).append (names_optionalField _ _))
    model := field?_modelId batch modelId
    nonempty := hlength ▸ hsize.1
    bounded := hlength ▸ hsize.2
    hasWrites := by rw [field?_writes, isSome_sideBody, ne_eq, List.map_eq_nil_iff]
    hasDeletes := by rw [field?_deletes, isSome_sideBody, ne_eq, List.map_eq_nil_iff]
    filled := by
      intro side hside v hv
      simp only [List.mem_cons, List.not_mem_nil, or_false] at hside
      rcases hside with rfl | rfl
      · rw [field?_writes] at hv
        exact of_sideBody_eq_some hv
      · rw [field?_deletes] at hv
        exact of_sideBody_eq_some hv
    unconditional := by
      intro key hkey
      rw [sideKeys_deletes] at hkey
      obtain ⟨k, -, rfl⟩ := List.mem_map.1 hkey
      rfl
    distinct := by
      refine ⟨batch.keys, ?_, hkeys⟩
      rw [List.mapM_append, sideKeys_writes, mapM_map_eq_ok decode_key_encode, hdeletes]
      rfl
    deletes := hdeletes
    writes := hwrites
    writesExactly := by
      intro hnull
      rw [hwrites]
      congr 1
      conv_rhs => rw [← List.map_id batch.writes]
      exact List.map_congr_left fun t ht => Tuple.withoutNull_eq_iff.2 (hnull t ht) }

/-- The bodies for the batches of a difference are well formed. -/
theorem wellFormed_of_mem_batches {desired actual : TupleSet} {limit : Nat} {batch : Batch}
    (modelId : Option String) (h : desired.Keyed)
    (hbatch : batch ∈ (TupleDiff.between desired actual).batches limit) :
    WellFormed limit batch modelId (encodeWrite batch modelId) :=
  wellFormed_encodeWrite modelId (TupleDiff.size_of_mem_batches hbatch)
    (TupleDiff.nodup_keys_of_mem_batches h hbatch)

end PolicySync.TupleService
