import PolicySync.Pass.Call

/-!
# Faults

A fault is laid on one call of a method, counted from the start of a simulation. It can cancel the
callers' passes before or after the call, make the call wait, let it fail, or change the page that
it returns.
-/

namespace PolicySync.Simulation

/-- The methods whose calls are counted. -/
inductive Method where
  | list
  | tenants
  | openStore
  | read
  | write
  deriving DecidableEq, Repr

/-- The method of a call. -/
def method : Call → Method
  | .list _ _ _ _ => .list
  | .tenants => .tenants
  | .openStore _ => .openStore
  | .read _ _ _ => .read
  | .write _ _ => .write

/-- An error that a fault makes a call return. -/
inductive InjectedError where
  | listBackend (detail : String)
  | listDecode (name detail : String)
  | tenants (detail : String)
  | store (error : StoreError)
  deriving Repr

namespace InjectedError

/-- The failing result of a call, when the error is one of its method. -/
def result? (e : InjectedError) : (c : Call) → Option c.Result
  | .list kind _ _ _ =>
    match e with
    | listBackend detail => some (.error (.backend kind detail))
    | listDecode name detail => some (.error (.decode kind name detail))
    | _ => none
  | .tenants =>
    match e with
    | tenants detail => some (.error (.tenants detail))
    | _ => none
  | .openStore _ =>
    match e with
    | store error => some (.error error)
    | _ => none
  | .read _ _ _ =>
    match e with
    | store error => some (.error error)
    | _ => none
  | .write _ _ =>
    match e with
    | store error => some (.error error)
    | _ => none

end InjectedError

/-- What goes wrong with one call. -/
structure Fault where
  cancelBefore : Bool := false
  /-- How long the call waits before it does anything, in milliseconds. -/
  delay : Nat := 0
  error : Option InjectedError := none
  /-- Resources that take the place of those listed. -/
  items : Option (List Resource) := none
  /-- A token that takes the place of the one returned. -/
  next : Option String := none
  cancelAfter : Bool := false
  deriving Inhabited

namespace Fault

/-- The failing result that a fault gives a call, if it gives one. -/
def failure? (f : Fault) (c : Call) : Option c.Result := f.error.bind (·.result? c)

/-- The result of a call under a fault. -/
def adjust (f : Fault) (c : Call) (r : c.Result) : c.Result :=
  match f.failure? c with
  | some failure => failure
  | none =>
    match c with
    | .list _ _ _ _ => Except.map (fun page =>
        { items := f.items.getD page.items, next := f.next.orElse fun _ => page.next }) r
    | .read _ _ _ => Except.map (fun page =>
        { page with next := f.next.orElse fun _ => page.next }) r
    | .tenants => r
    | .openStore _ => r
    | .write _ _ => r

end Fault

end PolicySync.Simulation
