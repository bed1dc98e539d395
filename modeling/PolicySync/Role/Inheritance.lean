import PolicySync.Resource.Basic

/-!
# Inheritance between roles

A role takes over the permissions of the roles it refers to, without those it omits, and adds its
own. `resolve` computes the permissions of every role by a worklist: a role is taken up when all
its references are resolved, and releases the roles that wait for it. Roles that are never taken
up lie on a cycle or refer to one.
-/

namespace PolicySync

/-- The permissions of every role, each list sorted and without repetition. -/
abbrev ResolvedRoles := SortedMap String (List Permission)

/-- Why the permissions of roles cannot be resolved. -/
inductive ResolveError where
  | unknownReference (role reference : String)
  | cycle (roles : List String)
  deriving DecidableEq, Repr

namespace ResolveError

/-- The error in words. -/
def message : ResolveError → String
  | unknownReference role reference => s!"role {role} references unknown role {reference}"
  | cycle roles => "role inheritance cycle detected involving: " ++ ", ".intercalate roles

end ResolveError

/-- Inherited permissions without the omitted ones, with the own ones added. -/
def composePermissions (inherited omitted own : List Permission) : List Permission :=
  Permission.sortDistinct (inherited.filter (fun p => !omitted.contains p) ++ own)

/-- The roles by name. -/
abbrev Roles := SortedMap String RoleSpec

namespace Roles

/-- The first reference to a role that does not exist, by role name and then by position. -/
def firstUnknown? (roles : Roles) : Option (String × String) :=
  roles.toList.findSome? fun e =>
    (e.2.refs.find? fun ref => !roles.contains ref).map fun ref => (e.1, ref)

/-- The roles that wait for a role, in name order, once for each reference. -/
def dependents (roles : Roles) (name : String) : List String :=
  roles.toList.flatMap fun e => (e.2.refs.filter (· == name)).map fun _ => e.1

end Roles

/-- The progress of resolution. -/
structure Worklist where
  /-- For each role, the number of its references that are not resolved yet. -/
  waiting : SortedMap String Nat
  /-- The roles whose references are all resolved, next one first. -/
  ready : List String
  /-- The permissions of the roles taken up so far. -/
  resolved : ResolvedRoles

namespace Worklist

/-- Before the first step, the roles without references are ready. -/
def start (roles : Roles) : Worklist where
  waiting := SortedMap.ofList (roles.toList.map fun e => (e.1, e.2.refs.length))
  ready := (roles.toList.filter fun e => e.2.refs.isEmpty).map (·.1)
  resolved := SortedMap.empty

/-- One reference of a role is resolved; with the last one the role becomes ready. -/
def release (w : Worklist) (name : String) : Worklist :=
  match w.waiting.get? name with
  | none => w
  | some n =>
    { w with
      waiting := w.waiting.insert name (n - 1)
      ready := if n - 1 = 0 then w.ready ++ [name] else w.ready }

/-- Take up one role: its permissions follow from those of its references. -/
def takeUp (roles : Roles) (w : Worklist) (name : String) : Worklist :=
  let spec := (roles.get? name).getD {}
  let inherited := (spec.refs.filterMap w.resolved.get?).flatten
  let permissions := composePermissions inherited spec.omitted spec.permissions
  (roles.dependents name).foldl release
    { w with resolved := w.resolved.insert name permissions }

/-- One turn of the worklist. -/
def step (roles : Roles) (w : Worklist) : Worklist :=
  match w.ready with
  | [] => w
  | name :: rest => takeUp roles { w with ready := rest } name

/-- The worklist after a number of turns. -/
def run (roles : Roles) : Nat → Worklist → Worklist
  | 0, w => w
  | n + 1, w => run roles n (step roles w)

end Worklist

/-- The permissions of every role. Every turn of the worklist resolves one role, so as many turns
as there are roles are enough. -/
def resolve (roles : Roles) : Except ResolveError ResolvedRoles :=
  match roles.firstUnknown? with
  | some (role, reference) => .error (.unknownReference role reference)
  | none =>
    let w := Worklist.run roles roles.size (Worklist.start roles)
    if w.resolved.size < roles.size then
      .error (.cycle (roles.keys.filter fun name => !w.resolved.contains name))
    else .ok w.resolved

end PolicySync
