import PolicySync.Config.Basic
import PolicySync.Text.Record

/-!
# Configurations in messages

The settings of the tuple store in one line, without the token that gives access to it.
-/

namespace PolicySync

/-- The settings of the tuple store as one source has them. -/
def StoreSection.display (s : StoreSection) : String :=
  Text.record "OpenFgaConfigLayer" [
    ("url", Text.option Text.quoted s.url),
    ("api_token", Text.option Text.redacted s.apiToken),
    ("authorization_model_id", Text.option Text.quoted s.modelId),
    ("store_prefix", Text.option Text.quoted s.storePrefix),
    ("request_timeout_secs", Text.option toString s.requestTimeout)]

/-- The settings of the tuple store. -/
def StoreConfig.display (c : StoreConfig) : String :=
  Text.record "OpenFgaConfig" [
    ("url", Text.quoted c.url),
    ("api_token", Text.option Text.redacted c.apiToken),
    ("authorization_model_id", Text.option Text.quoted c.modelId),
    ("store_prefix", Text.quoted c.storePrefix),
    ("request_timeout_secs", toString c.requestTimeout)]

end PolicySync
