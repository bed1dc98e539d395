import PolicySync.Text.Quoted

/-!
# Records in one line

A record is shown by its name and its fields, a value that may be missing as `Some` or `None`, and
a secret by nothing but the fact that there is one.
-/

namespace PolicySync.Text

/-- A value that may be missing, in one line. -/
def option (shown : α → String) : Option α → String
  | none => "None"
  | some a => "Some(" ++ shown a ++ ")"

/-- What is shown in place of a secret. -/
def redacted (_ : String) : String := quoted "[REDACTED]"

/-- A record with its fields in one line. -/
def record (name : String) (fields : List (String × String)) : String :=
  name ++ " \x7b " ++ ", ".intercalate (fields.map fun f => f.1 ++ ": " ++ f.2) ++ " \x7d"

end PolicySync.Text
