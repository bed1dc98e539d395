import PolicySync.Config.Error
import PolicySync.Config.Layer

/-!
# Complete configurations

`Layer.settle` fills what a layer leaves open with defaults, and `Config.check` says whether the
result can be worked with: sizes, concurrency, interval and request timeout are positive, and the
tuple store has a web address.
-/

namespace PolicySync

/-- How passes run; times are in seconds. No tenants stand for all that can be found. -/
structure PassConfig where
  writeBatchSize : Nat := 100
  listPageSize : Nat := 50000
  readPageSize : Nat := 100
  interval : Nat := 300
  pageTimeout : Nat := 30
  batchTimeout : Nat := 30
  tenantConcurrency : Nat := 4
  dryRun : Bool := false
  tenants : List String := []
  deriving DecidableEq, Repr, Inhabited

/-- Where the tuple store is and how it is spoken to. -/
structure StoreConfig where
  url : String := "http://localhost:8080"
  apiToken : Option String := none
  modelId : Option String := none
  storePrefix : String := "tenant-"
  requestTimeout : Nat := 10
  deriving DecidableEq, Repr, Inhabited

/-- Where the resources are. -/
structure ClusterConfig where
  group : String := "iam.relsync.dev"
  version : String := "v0alpha1"
  tenantSelector : Option String := none
  deriving DecidableEq, Repr, Inhabited

/-- What is logged, and in which form. -/
structure LogConfig where
  level : String := "info"
  json : Bool := false
  deriving DecidableEq, Repr, Inhabited

/-- A complete configuration. -/
structure Config where
  pass : PassConfig := {}
  store : StoreConfig := {}
  cluster : ClusterConfig := {}
  log : LogConfig := {}
  deriving DecidableEq, Repr, Inhabited

/-- The section with defaults for what it leaves open. -/
def PassSection.settle (s : PassSection) : PassConfig :=
  let base : PassConfig := {}
  { writeBatchSize := s.writeBatchSize.getD base.writeBatchSize
    listPageSize := s.listPageSize.getD base.listPageSize
    readPageSize := s.readPageSize.getD base.readPageSize
    interval := s.interval.getD base.interval
    pageTimeout := s.pageTimeout.getD base.pageTimeout
    batchTimeout := s.batchTimeout.getD base.batchTimeout
    tenantConcurrency := s.tenantConcurrency.getD base.tenantConcurrency
    dryRun := s.dryRun.getD base.dryRun
    tenants := s.tenants.getD base.tenants }

/-- The section with defaults for what it leaves open. -/
def StoreSection.settle (s : StoreSection) : StoreConfig :=
  let base : StoreConfig := {}
  { url := s.url.getD base.url
    apiToken := s.apiToken
    modelId := s.modelId
    storePrefix := s.storePrefix.getD base.storePrefix
    requestTimeout := s.requestTimeout.getD base.requestTimeout }

/-- The section with defaults for what it leaves open. -/
def ClusterSection.settle (s : ClusterSection) : ClusterConfig :=
  let base : ClusterConfig := {}
  { group := s.group.getD base.group
    version := s.version.getD base.version
    tenantSelector := s.tenantSelector }

/-- The section with defaults for what it leaves open. -/
def LogSection.settle (s : LogSection) : LogConfig :=
  let base : LogConfig := {}
  { level := s.level.getD base.level
    json := s.json.getD base.json }

/-- The layer with defaults for what it leaves open. -/
def Layer.settle (layer : Layer) : Config where
  pass := (layer.pass.getD {}).settle
  store := (layer.store.getD {}).settle
  cluster := (layer.cluster.getD {}).settle
  log := (layer.log.getD {}).settle

/-- Refuses zero for a setting. -/
def positive (setting : String) (n : Nat) : Except ConfigError Unit :=
  if n = 0 then .error (.zero setting) else .ok ()

/-- Whether passes can run with the settings. -/
def PassConfig.check (c : PassConfig) : Except ConfigError Unit := do
  positive "reconciler.write_batch_size" c.writeBatchSize
  positive "reconciler.list_page_size" c.listPageSize
  positive "reconciler.read_page_size" c.readPageSize
  positive "reconciler.tenant_concurrency" c.tenantConcurrency
  positive "reconciler.interval_secs" c.interval

/-- Whether a text starts as a web address does. -/
def isWebAddress (url : String) : Bool :=
  "http://".toList.isPrefixOf url.toList || "https://".toList.isPrefixOf url.toList

/-- Whether the tuple store can be spoken to with the settings. -/
def StoreConfig.check (c : StoreConfig) : Except ConfigError Unit := do
  if !isWebAddress c.url then throw (.notAnAddress c.url)
  positive "openfga.request_timeout_secs" c.requestTimeout

/-- Whether the configuration can be worked with. -/
def Config.check (c : Config) : Except ConfigError Unit := do
  c.pass.check
  c.store.check

end PolicySync
