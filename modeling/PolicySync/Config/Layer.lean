/-!
# Layers of a configuration

A `Layer` is what one source says about the configuration: every section and every setting may be
left open. `Layer.overlay` puts one layer on another, setting by setting: where the upper layer
says nothing, the lower one shows through.
-/

namespace PolicySync

/-- How passes run; times are in seconds. -/
structure PassSection where
  writeBatchSize : Option Nat := none
  listPageSize : Option Nat := none
  readPageSize : Option Nat := none
  interval : Option Nat := none
  pageTimeout : Option Nat := none
  batchTimeout : Option Nat := none
  tenantConcurrency : Option Nat := none
  dryRun : Option Bool := none
  tenants : Option (List String) := none
  deriving DecidableEq, Repr, Inhabited

/-- Where the tuple store is and how it is spoken to. -/
structure StoreSection where
  url : Option String := none
  apiToken : Option String := none
  modelId : Option String := none
  storePrefix : Option String := none
  requestTimeout : Option Nat := none
  deriving DecidableEq, Repr, Inhabited

/-- Where the resources are. -/
structure ClusterSection where
  group : Option String := none
  version : Option String := none
  tenantSelector : Option String := none
  deriving DecidableEq, Repr, Inhabited

/-- What is logged, and in which form. -/
structure LogSection where
  level : Option String := none
  json : Option Bool := none
  deriving DecidableEq, Repr, Inhabited

/-- What one source says about the configuration. -/
structure Layer where
  pass : Option PassSection := none
  store : Option StoreSection := none
  cluster : Option ClusterSection := none
  log : Option LogSection := none
  deriving DecidableEq, Repr, Inhabited

/-- The lower section with the settings of the upper one on top. -/
def PassSection.overlay (lower upper : PassSection) : PassSection where
  writeBatchSize := upper.writeBatchSize.or lower.writeBatchSize
  listPageSize := upper.listPageSize.or lower.listPageSize
  readPageSize := upper.readPageSize.or lower.readPageSize
  interval := upper.interval.or lower.interval
  pageTimeout := upper.pageTimeout.or lower.pageTimeout
  batchTimeout := upper.batchTimeout.or lower.batchTimeout
  tenantConcurrency := upper.tenantConcurrency.or lower.tenantConcurrency
  dryRun := upper.dryRun.or lower.dryRun
  tenants := upper.tenants.or lower.tenants

/-- The lower section with the settings of the upper one on top. -/
def StoreSection.overlay (lower upper : StoreSection) : StoreSection where
  url := upper.url.or lower.url
  apiToken := upper.apiToken.or lower.apiToken
  modelId := upper.modelId.or lower.modelId
  storePrefix := upper.storePrefix.or lower.storePrefix
  requestTimeout := upper.requestTimeout.or lower.requestTimeout

/-- The lower section with the settings of the upper one on top. -/
def ClusterSection.overlay (lower upper : ClusterSection) : ClusterSection where
  group := upper.group.or lower.group
  version := upper.version.or lower.version
  tenantSelector := upper.tenantSelector.or lower.tenantSelector

/-- The lower section with the settings of the upper one on top. -/
def LogSection.overlay (lower upper : LogSection) : LogSection where
  level := upper.level.or lower.level
  json := upper.json.or lower.json

/-- A section that may be missing below another that may be missing; `empty` stands for a missing
one below one that is there. -/
def overlaySection (empty : σ) (overlay : σ → σ → σ) (lower : Option σ) : Option σ → Option σ
  | none => lower
  | some upper => some (overlay (lower.getD empty) upper)

/-- The lower layer with the settings of the upper one on top. -/
def Layer.overlay (lower upper : Layer) : Layer where
  pass := overlaySection {} .overlay lower.pass upper.pass
  store := overlaySection {} .overlay lower.store upper.store
  cluster := overlaySection {} .overlay lower.cluster upper.cluster
  log := overlaySection {} .overlay lower.log upper.log

end PolicySync
