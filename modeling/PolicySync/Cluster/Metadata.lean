import PolicySync.Cluster.Moment
import PolicySync.Json.Decode

/-!
# Metadata of objects and lists

What a cluster notes about an object or a list beside its content. Little of it matters here, but
all of it has to have its form: a field of another form makes the whole unreadable. A field may be
null, and may come several times, when the last one counts.
-/

namespace PolicySync.Cluster

open Json (Value Decoder)

/-- A moment from JSON. -/
def decodeMoment : Decoder Unit := fun v => do
  if !isMoment (← Json.string v) then throw (.mismatch "a moment")

/-- The form of the note of who manages which fields of an object. -/
def checkManager : Decoder Unit := fun v => do
  let fields ← Json.entriesOf Json.value v
  Json.formed fields ["apiVersion", "fieldsType", "manager", "operation", "subresource"] Json.string
  Json.formed fields ["time"] decodeMoment
  Json.formed fields ["fieldsV1"] Json.settled

/-- The form of a reference to an object that owns another. -/
def checkOwner : Decoder Unit := fun v => do
  let fields ← Json.entriesOf Json.value v
  Json.formed fields ["apiVersion", "kind", "name", "uid"] Json.string
  Json.formed fields ["blockOwnerDeletion", "controller"] Json.boolean

/-- The name and the namespace of an object from its metadata. -/
def decodeNames : Decoder (Option String × Option String) := fun v => do
  let fields ← Json.entriesOf Json.value v
  Json.formed fields ["generateName", "resourceVersion", "selfLink", "uid"] Json.string
  Json.formed fields ["deletionGracePeriodSeconds", "generation"] Json.integer
  Json.formed fields ["creationTimestamp", "deletionTimestamp"] decodeMoment
  Json.formed fields ["annotations", "labels"] (Json.entriesOf Json.string)
  Json.formed fields ["finalizers"] (Json.listOf Json.string)
  Json.formed fields ["managedFields"] (Json.listOf checkManager)
  Json.formed fields ["ownerReferences"] (Json.listOf checkOwner)
  return (← Json.lastOf fields "name" Json.string, ← Json.lastOf fields "namespace" Json.string)

/-- The token of the next page from the metadata of a list. -/
def decodeContinue : Decoder (Option String) := fun v => do
  let fields ← Json.entriesOf Json.value v
  Json.formed fields ["resourceVersion", "selfLink"] Json.string
  Json.formed fields ["remainingItemCount"] Json.integer
  Json.lastOf fields "continue" Json.string

end PolicySync.Cluster
