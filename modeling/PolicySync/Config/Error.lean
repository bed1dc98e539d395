/-!
# What can be wrong with a configuration

`ConfigError` lists why a source cannot be read or why a complete configuration is refused.
-/

namespace PolicySync

/-- A range of whole numbers from zero on, with the name it has in messages. -/
structure NumberRange where
  name : String
  bound : Nat
  deriving DecidableEq, Repr

namespace NumberRange

/-- Sizes and counts of what is held in memory. -/
def count : NumberRange := ⟨"usize", Nat.pow 2 64⟩

/-- Sizes of pages. -/
def pageSize : NumberRange := ⟨"u32", Nat.pow 2 32⟩

/-- Lengths of time in seconds. -/
def seconds : NumberRange := ⟨"u64", Nat.pow 2 64⟩

end NumberRange

/-- Why there is no configuration. -/
inductive ConfigError where
  /-- A file that has to exist does not. -/
  | unreadableFile
  /-- A file is malformed or sets a value of the wrong type. -/
  | malformedFile
  /-- A variable is no number of its range. -/
  | notANumber (name : String) (range : NumberRange) (text : String)
  /-- The address of the tuple store does not start as a web address does. -/
  | notAnAddress (url : String)
  /-- A setting that has to be positive is zero. -/
  | zero (setting : String)
  deriving DecidableEq, Repr

namespace ConfigError

/-- The error in words. -/
def message : ConfigError → String
  | unreadableFile => "failed to read config file"
  | malformedFile => "failed to parse config file"
  | notANumber name range text =>
    s!"invalid value for {name}: invalid {range.name} value '" ++ text ++ "'"
  | notAnAddress url => "invalid value for openfga.url: '" ++ url ++ "' is not an http(s) URL"
  | zero setting => s!"invalid configuration: {setting} must be greater than zero"

end ConfigError

end PolicySync
