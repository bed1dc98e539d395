import PolicySync.Config.Basic
import PolicySync.Json.Decode

/-!
# Configurations as JSON

`Layer.decoder` reads a layer, in which any section and any setting may be missing or null;
unknown settings are ignored. `Layer.encode` and `Config.encode` write every setting, an open one
as null.
-/

namespace PolicySync

open Json (Value Decoder Fields)

/-- A value that may be missing, as JSON. -/
def encodeOption (encode : α → Value) : Option α → Value
  | none => .null
  | some a => encode a

/-- A number as JSON. -/
def encodeNumber (n : Nat) : Value := .int n

/-- Texts as JSON. -/
def encodeTexts (texts : List String) : Value := .list (texts.map .str)

namespace PassSection

/-- The names of the settings in order. -/
def names : List String :=
  ["write_batch_size", "list_page_size", "read_page_size", "interval_secs", "page_timeout_secs",
    "batch_timeout_secs", "tenant_concurrency", "dry_run", "tenants"]

/-- The section with the given fields. -/
def ofFields (fields : Fields) : Except Json.DecodeError PassSection := do
  let number (range : NumberRange) (name : String) :=
    Json.optional fields name (Json.natural range.bound)
  return {
    writeBatchSize := ← number .count "write_batch_size"
    listPageSize := ← number .pageSize "list_page_size"
    readPageSize := ← number .pageSize "read_page_size"
    interval := ← number .seconds "interval_secs"
    pageTimeout := ← number .seconds "page_timeout_secs"
    batchTimeout := ← number .seconds "batch_timeout_secs"
    tenantConcurrency := ← number .count "tenant_concurrency"
    dryRun := ← Json.optional fields "dry_run" Json.boolean
    tenants := ← Json.optional fields "tenants" (Json.listOf Json.string) }

/-- The section as JSON. -/
def encode (s : PassSection) : Value :=
  .object [("write_batch_size", encodeOption encodeNumber s.writeBatchSize),
    ("list_page_size", encodeOption encodeNumber s.listPageSize),
    ("read_page_size", encodeOption encodeNumber s.readPageSize),
    ("interval_secs", encodeOption encodeNumber s.interval),
    ("page_timeout_secs", encodeOption encodeNumber s.pageTimeout),
    ("batch_timeout_secs", encodeOption encodeNumber s.batchTimeout),
    ("tenant_concurrency", encodeOption encodeNumber s.tenantConcurrency),
    ("dry_run", encodeOption .bool s.dryRun),
    ("tenants", encodeOption encodeTexts s.tenants)]

end PassSection

namespace StoreSection

/-- The names of the settings in order. -/
def names : List String :=
  ["url", "api_token", "authorization_model_id", "store_prefix", "request_timeout_secs"]

/-- The section with the given fields. -/
def ofFields (fields : Fields) : Except Json.DecodeError StoreSection := do
  return {
    url := ← Json.optional fields "url" Json.string
    apiToken := ← Json.optional fields "api_token" Json.string
    modelId := ← Json.optional fields "authorization_model_id" Json.string
    storePrefix := ← Json.optional fields "store_prefix" Json.string
    requestTimeout :=
      ← Json.optional fields "request_timeout_secs" (Json.natural NumberRange.seconds.bound) }

/-- The section as JSON. -/
def encode (s : StoreSection) : Value :=
  .object [("url", encodeOption .str s.url), ("api_token", encodeOption .str s.apiToken),
    ("authorization_model_id", encodeOption .str s.modelId),
    ("store_prefix", encodeOption .str s.storePrefix),
    ("request_timeout_secs", encodeOption encodeNumber s.requestTimeout)]

end StoreSection

namespace ClusterSection

/-- The names of the settings in order. -/
def names : List String := ["group", "version", "tenant_label_selector"]

/-- The section with the given fields. -/
def ofFields (fields : Fields) : Except Json.DecodeError ClusterSection := do
  return {
    group := ← Json.optional fields "group" Json.string
    version := ← Json.optional fields "version" Json.string
    tenantSelector := ← Json.optional fields "tenant_label_selector" Json.string }

/-- The section as JSON. -/
def encode (s : ClusterSection) : Value :=
  .object [("group", encodeOption .str s.group), ("version", encodeOption .str s.version),
    ("tenant_label_selector", encodeOption .str s.tenantSelector)]

end ClusterSection

namespace LogSection

/-- The names of the settings in order. -/
def names : List String := ["level", "json"]

/-- The section with the given fields. -/
def ofFields (fields : Fields) : Except Json.DecodeError LogSection := do
  return {
    level := ← Json.optional fields "level" Json.string
    json := ← Json.optional fields "json" Json.boolean }

/-- The section as JSON. -/
def encode (s : LogSection) : Value :=
  .object [("level", encodeOption .str s.level), ("json", encodeOption .bool s.json)]

end LogSection

namespace Layer

/-- A layer whose sections `form` takes apart by the names of their settings. -/
def decoder (form : List String → Decoder Fields) : Decoder Layer := fun v => do
  let sections ← Json.record ["reconciler", "openfga", "kube", "logging"] v
  let read {σ : Type} (name : String) (settings : List String)
      (ofFields : Fields → Except Json.DecodeError σ) : Except Json.DecodeError (Option σ) :=
    Json.optional sections name fun body => do ofFields (← form settings body)
  return {
    pass := ← read "reconciler" PassSection.names PassSection.ofFields
    store := ← read "openfga" StoreSection.names StoreSection.ofFields
    cluster := ← read "kube" ClusterSection.names ClusterSection.ofFields
    log := ← read "logging" LogSection.names LogSection.ofFields }

/-- The layer as JSON, a missing section as null. -/
def encode (layer : Layer) : Value :=
  .object [("reconciler", encodeOption PassSection.encode layer.pass),
    ("openfga", encodeOption StoreSection.encode layer.store),
    ("kube", encodeOption ClusterSection.encode layer.cluster),
    ("logging", encodeOption LogSection.encode layer.log)]

end Layer

/-- The layer that says everything a configuration says. -/
def Config.toLayer (c : Config) : Layer where
  pass := some {
    writeBatchSize := c.pass.writeBatchSize
    listPageSize := c.pass.listPageSize
    readPageSize := c.pass.readPageSize
    interval := c.pass.interval
    pageTimeout := c.pass.pageTimeout
    batchTimeout := c.pass.batchTimeout
    tenantConcurrency := c.pass.tenantConcurrency
    dryRun := c.pass.dryRun
    tenants := c.pass.tenants }
  store := some {
    url := c.store.url
    apiToken := c.store.apiToken
    modelId := c.store.modelId
    storePrefix := c.store.storePrefix
    requestTimeout := c.store.requestTimeout }
  cluster := some {
    group := c.cluster.group
    version := c.cluster.version
    tenantSelector := c.cluster.tenantSelector }
  log := some {
    level := c.log.level
    json := c.log.json }

/-- A configuration as JSON. -/
def Config.encode (c : Config) : Value := c.toLayer.encode

end PolicySync
