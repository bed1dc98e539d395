import PolicySync.Config.Basic
import PolicySync.SortedMap
import PolicySync.Text.Blank
import PolicySync.Text.Numeral
import PolicySync.Text.Split

/-!
# Configuration from environment variables

Every setting has a variable of its own. An empty variable counts as unset, a number has to fit the
range of its setting, a switch is on for `1` and for `true` in any case of letters, and a list is
written with commas.
-/

namespace PolicySync

/-- Variables and their values. -/
abbrev Environment := SortedMap String String

namespace Environment

/-- The value of a variable that is set. -/
def value? (env : Environment) (name : String) : Option String :=
  (env.get? name).filter (· ≠ "")

/-- The number that a variable is set to. -/
def number (env : Environment) (range : NumberRange) (name : String) :
    Except ConfigError (Option Nat) :=
  match env.value? name with
  | none => .ok none
  | some text =>
    match Text.natural? range.bound text with
    | some n => .ok (some n)
    | none => .error (.notANumber name range text)

/-- Whether a text turns a switch on. -/
def isOn (text : String) : Bool :=
  text.toList.map Char.toLower = "true".toList || text = "1"

/-- The state of the switch that a variable sets. -/
def switch (env : Environment) (name : String) : Option Bool :=
  (env.value? name).map isOn

/-- The items of a list with commas, without blanks around them and without empty ones. -/
def items (text : String) : List String :=
  (((Text.pieces ',' text.toList).map Text.trim).filter (· ≠ [])).map String.ofList

/-- The list that a variable sets. -/
def list (env : Environment) (name : String) : Option (List String) :=
  (env.value? name).map items

/-- What the variables say about passes. -/
def passSection (env : Environment) : Except ConfigError PassSection := do
  return {
    writeBatchSize := ← env.number .count "RELSYNC_RECONCILER_WRITE_BATCH_SIZE"
    listPageSize := ← env.number .pageSize "RELSYNC_RECONCILER_LIST_PAGE_SIZE"
    readPageSize := ← env.number .pageSize "RELSYNC_RECONCILER_READ_PAGE_SIZE"
    interval := ← env.number .seconds "RELSYNC_RECONCILER_INTERVAL_SECS"
    pageTimeout := ← env.number .seconds "RELSYNC_RECONCILER_PAGE_TIMEOUT_SECS"
    batchTimeout := ← env.number .seconds "RELSYNC_RECONCILER_BATCH_TIMEOUT_SECS"
    tenantConcurrency := ← env.number .count "RELSYNC_RECONCILER_TENANT_CONCURRENCY"
    dryRun := env.switch "RELSYNC_RECONCILER_DRY_RUN"
    tenants := env.list "RELSYNC_RECONCILER_TENANTS" }

/-- What the variables say about the tuple store. -/
def storeSection (env : Environment) : Except ConfigError StoreSection := do
  return {
    url := env.value? "RELSYNC_OPENFGA_URL"
    apiToken := env.value? "RELSYNC_OPENFGA_API_TOKEN"
    modelId := env.value? "RELSYNC_OPENFGA_AUTHORIZATION_MODEL_ID"
    storePrefix := env.value? "RELSYNC_OPENFGA_STORE_PREFIX"
    requestTimeout := ← env.number .seconds "RELSYNC_OPENFGA_REQUEST_TIMEOUT_SECS" }

/-- What the variables say about the resources. -/
def clusterSection (env : Environment) : ClusterSection where
  group := env.value? "RELSYNC_KUBE_GROUP"
  version := env.value? "RELSYNC_KUBE_VERSION"
  tenantSelector := env.value? "RELSYNC_KUBE_TENANT_LABEL_SELECTOR"

/-- What the variables say about logging. -/
def logSection (env : Environment) : LogSection where
  level := env.value? "RELSYNC_LOGGING_LEVEL"
  json := env.switch "RELSYNC_LOGGING_JSON"

/-- What the variables say about the configuration. Every section is there, if only an empty one. -/
def layer (env : Environment) : Except ConfigError Layer := do
  return {
    pass := some (← env.passSection)
    store := some (← env.storeSection)
    cluster := some env.clusterSection
    log := some env.logSection }

end Environment

end PolicySync
