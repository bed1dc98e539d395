import PolicySync.PolicyError
import PolicySync.Resource.Kind
import PolicySync.Role.Inheritance
import PolicySync.Text.Span

/-!
# What can go wrong in a pass

Listing resources, the tuple store, and a pass as a whole each have their own errors. A pass error
is transient unless it comes from the policy itself: only a change of policy mends those.
-/

namespace PolicySync

/-- Why resources or tenants could not be listed. -/
inductive ListError where
  | backend (kind : ResourceKind) (detail : String)
  | decode (kind : ResourceKind) (name detail : String)
  | tenants (detail : String)
  deriving DecidableEq, Repr

namespace ListError

/-- The error in words. -/
def message : ListError → String
  | backend kind detail => "list " ++ kind.name ++ " failed: " ++ detail
  | decode kind name detail => "failed to decode " ++ kind.name ++ s!" {name}: {detail}"
  | tenants detail => s!"tenant discovery failed: {detail}"

end ListError

/-- Why the tuple store did not do as asked. -/
inductive StoreError where
  | request (detail : String)
  | rejected (status : Nat) (detail : String)
  | notFound (store : String)
  | invalidResponse (detail : String)
  deriving DecidableEq, Repr

namespace StoreError

/-- The error in words. -/
def message : StoreError → String
  | request detail => s!"store request failed: {detail}"
  | rejected status detail => s!"store rejected request ({status}): {detail}"
  | notFound store => s!"store not found: {store}"
  | invalidResponse detail => s!"invalid store response: {detail}"

end StoreError

/-- The kinds of calls that are limited in time. -/
inductive Operation where
  | storeLookup
  | listPage
  | readPage
  | tenantDiscovery
  deriving DecidableEq, Repr

namespace Operation

/-- The name of an operation. -/
def name : Operation → String
  | storeLookup => "store lookup"
  | listPage => "list page"
  | readPage => "read page"
  | tenantDiscovery => "tenant discovery"

end Operation

/-- Why a pass failed. -/
inductive PassError where
  | resolve (source : ResolveError)
  | policy (kind : ResourceKind) (name : String) (source : PolicyError)
  | list (source : ListError)
  | store (source : StoreError)
  | batches (tenant : String) (failed total : Nat)
  | timeout (operation : Operation) (milliseconds : Nat)
  | cancelled
  deriving DecidableEq, Repr

namespace PassError

/-- The error in words. -/
def message : PassError → String
  | resolve source => "global role resolution failed: " ++ source.message
  | policy kind name source =>
    "failed to translate " ++ kind.name ++ " " ++ name ++ ": " ++ source.message
  | list source => "listing failed: " ++ source.message
  | store source => "tuple store error: " ++ source.message
  | batches tenant failed total => s!"{failed} of {total} batches failed for tenant {tenant}"
  | timeout operation ms => operation.name ++ " timed out after " ++ Text.span ms
  | cancelled => "reconciliation cancelled"

/-- Whether the same pass could succeed without a change of policy. -/
def isTransient : PassError → Bool
  | resolve _ | policy _ _ _ => false
  | _ => true

end PassError

end PolicySync
