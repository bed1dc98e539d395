import PolicySync.Text.Split

/-!
# References to typed things

The user and the object of a tuple are references `type:id`; a reference `type:id#relation` stands
for everyone who has that relation to the thing. `TypedRef.parse?` cuts a text at its first colon
and at the last `#` after it, and what it reads is written back by `render`.
-/

namespace PolicySync

/-- A reference to a thing of a type, or to those who have a relation to it. -/
structure TypedRef where
  type : String
  id : String
  relation : Option String := none
  deriving DecidableEq, Repr, Inhabited

/-- The reference to a thing. -/
def objectRef (type id : String) : String := type ++ ":" ++ id

/-- The reference to those who have a relation to a thing. -/
def usersetRef (type id relation : String) : String := type ++ ":" ++ id ++ "#" ++ relation

namespace TypedRef

/-- The reference written out. -/
def render (r : TypedRef) : String :=
  match r.relation with
  | none => objectRef r.type r.id
  | some relation => usersetRef r.type r.id relation

/-- The reference that a text spells; its type, its id and a relation have to be non-empty. -/
def parse? (s : String) : Option TypedRef := do
  let (type, rest) ← Text.cutFirst ':' s.toList
  let (id, relation) :=
    match Text.cutLast '#' rest with
    | some (id, relation) => (id, some relation)
    | none => (rest, none)
  if type.isEmpty || id.isEmpty || relation == some [] then none
  else
    return {
      type := String.ofList type
      id := String.ofList id
      relation := relation.map String.ofList }

end TypedRef

end PolicySync
