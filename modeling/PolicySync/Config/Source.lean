import PolicySync.Config.Codec
import PolicySync.Config.Environment
import PolicySync.Toml.Document

/-!
# Sources of configuration

A configuration is put together from layers: the defaults, a file and the environment, each on top
of the ones before. `Config.ofSources` loads sources in the order of their precedence, whatever order
they are given in, and stops at the first one that cannot be loaded. What sources are does not matter
to it; `Source` lists those that there are.
-/

namespace PolicySync

/-- Sources by precedence; equal ones stay in the order they are given in. -/
def byPrecedence (precedence : σ → Nat) (sources : List σ) : List σ :=
  sources.mergeSort fun a b => precedence a ≤ precedence b

/-- The configuration that sources make up, those of higher precedence on top. -/
def Config.ofSources (precedence : σ → Nat) (load : σ → Except ConfigError Layer)
    (sources : List σ) : Except ConfigError Config := do
  let layers ← (byPrecedence precedence sources).mapM load
  let config := (layers.foldl Layer.overlay {}).settle
  config.check
  return config

/-- A source of settings. -/
inductive Source where
  /-- The defaults, which say nothing, since an open setting has its default anyway. -/
  | defaults
  /-- A file with its text, if it exists, and whether it has to. -/
  | file (text? : Option String) (required : Bool)
  /-- The environment. -/
  | environment (env : Environment)

namespace Source

/-- What the source is called. -/
def name : Source → String
  | defaults => "defaults"
  | file _ _ => "toml-config"
  | environment _ => "environment"

/-- Sources of higher precedence go on top. -/
def precedence : Source → Nat
  | defaults => 10
  | file _ _ => 20
  | environment _ => 50

/-- The layer that the text of a file describes. A section in brackets is read in order, and what
goes beyond its last setting is ignored. -/
def parse (text : String) : Except ConfigError Layer :=
  match Toml.read? text with
  | none => .error .malformedFile
  | some document =>
    match Layer.decoder Json.leadingRecord document with
    | .ok layer => .ok layer
    | .error _ => .error .malformedFile

/-- What the source says about the configuration. -/
def load : Source → Except ConfigError Layer
  | defaults => .ok {}
  | file none false => .ok {}
  | file none true => .error .unreadableFile
  | file (some text) _ => parse text
  | environment env => env.layer

/-- The configuration that the sources make up. -/
def loadAll (sources : List Source) : Except ConfigError Config :=
  Config.ofSources precedence load sources

/-- The configuration of a file and the environment, on top of the defaults. A file that is named
has to exist. -/
def loadStandard (named : Bool) (text? : Option String) (env : Environment) :
    Except ConfigError Config :=
  loadAll [.defaults, .file text? named, .environment env]

end Source

end PolicySync
