import PolicySync.Http.Exchange
import PolicySync.Pass.Error

/-!
# What can go wrong with the tuple service

`ServiceError` lists how a request to the tuple service can fail, which failures are passing ones,
and as what a pass sees them.
-/

namespace PolicySync

/-- Why the tuple service did not do as asked. -/
inductive ServiceError where
  /-- No reply came; the failure is passing if there was not even a connection. -/
  | network (detail : String) (passing : Bool)
  | timeout
  | unauthorized
  | rateLimited
  | invalidResponse (detail : String)
  | api (status : Nat) (detail : String)
  | invalidConfig (detail : String)
  /-- The program broke down, because a wait before another attempt was no length of time. -/
  | brokenDown
  deriving DecidableEq, Repr

namespace ServiceError

/-- The error in words. -/
def message : ServiceError → String
  | network detail _ => s!"network error: {detail}"
  | timeout => "request timed out"
  | unauthorized => "unauthorized"
  | rateLimited => "rate limited"
  | invalidResponse detail => s!"invalid response from OpenFGA: {detail}"
  | api status detail => s!"OpenFGA API error: {status} - {detail}"
  | invalidConfig detail => s!"invalid client configuration: {detail}"
  | brokenDown => "cannot convert float seconds to Duration"

/-- Whether the same request may succeed when it is sent again. -/
def isPassing : ServiceError → Bool
  | network _ passing => passing
  | timeout | rateLimited => true
  | api status _ => Http.isRetryable status
  | unauthorized | invalidResponse _ | invalidConfig _ | brokenDown => false

/-- The error as one of the tuple store. -/
def toStoreError (e : ServiceError) : StoreError :=
  match e with
  | unauthorized => .rejected 401 "unauthorized"
  | rateLimited => .rejected 429 "rate limited"
  | api status detail => .rejected status detail
  | invalidResponse detail => .invalidResponse detail
  | network _ _ | timeout | invalidConfig _ | brokenDown => .request e.message

end ServiceError

end PolicySync
