import PolicySync.Toml.Moment
import PolicySync.Toml.Tree

/-!
# Documents

A document is a list of statements, one on a line: headers and assignments. `Document.read?` gives
the object that a document describes, or nothing when it is malformed or opens a table or a key
twice.
-/

namespace PolicySync.Toml

open Text (Reader)

/-- A bound on brackets within brackets, and on the parts of a dotted key. -/
def depthLimit : Nat := 79

/-- One part of a key. -/
def keyPart : Reader String :=
  lineString '"' <|> lineString '\''
    <|> do
      let isWord (c : Char) : Bool := c.isAlphanum || c = '_' || c = '-'
      return String.ofList (← Reader.takeSome isWord)

/-- A key, dotted or not: the tables it leads through and its last part. -/
def key : Reader (Path × String) := do
  let parts ← Reader.separated (gap *> keyPart <* gap) (Reader.symbol '.')
  if parts.length ≤ depthLimit then return (parts.dropLast, parts.getLastD "") else failure

/-- A key and a value assigned to it. -/
structure Assignment where
  path : Path
  key : String
  value : Json.Value

/-- The tree with all assignments made in order. -/
def assignAll (assignments : List Assignment) (tree : Tree) : Option Tree :=
  assignments.foldlM (fun t a => t.assign a.path a.key a.value) tree

/-- An assignment of a value that `read` reads. -/
def assignment (read : Reader Json.Value) : Reader Assignment := do
  let (path, key) ← key
  Reader.symbol '='
  gap
  return ⟨path, key, ← read⟩

/-- The items of an array, with a comma after the last one or without. -/
def array (item : Reader Json.Value) : Reader Json.Value := do
  Reader.symbol '['
  let items ← Reader.optionally (Reader.separated (spread *> item <* spread) (Reader.symbol ','))
  if items.isSome then discard (Reader.optionally (Reader.symbol ','))
  spread
  Reader.symbol ']'
  return .list (items.getD [])

/-- A table in braces on one line. -/
def inlineTable (item : Reader Json.Value) : Reader Json.Value := do
  Reader.symbol '\x7b'
  let entry := assignment item <* gap
  let entries ← Reader.optionally (Reader.separated entry (Reader.symbol ','))
  gap
  Reader.symbol '\x7d'
  match assignAll (entries.getD []) [] with
  | some tree => return .object (fieldsOf tree)
  | none => failure

/-- A value without brackets. -/
def scalar : Reader Json.Value :=
  (.str <$> anyString) <|> moment <|> float <|> special <|> marked <|> whole
    <|> (Reader.exactly ['t', 'r', 'u', 'e'] *> pure (.bool true))
    <|> (Reader.exactly ['f', 'a', 'l', 's', 'e'] *> pure (.bool false))

/-- A value with at most `depth` brackets within brackets. -/
def value : Nat → Reader Json.Value
  | 0 => scalar
  | depth + 1 => scalar <|> array (value depth) <|> inlineTable (value depth)

/-- A statement of a document. -/
inductive Statement where
  | table (path : Path) (key : String)
  | item (path : Path) (key : String)
  | assign (a : Assignment)

/-- What stands on a line, which has an end if nothing else. -/
def line : Reader (Option Statement) :=
  (newline *> pure none)
    <|> (comment *> lineEnd *> pure none)
    <|> (do
      Reader.exactly ['[', '[']
      let (path, key) ← key
      Reader.exactly [']', ']']
      trailing
      return some (.item path key))
    <|> (do
      Reader.symbol '['
      let (path, key) ← key
      Reader.symbol ']'
      trailing
      return some (.table path key))
    <|> do
      let a ← assignment (value depthLimit)
      trailing
      return some (.assign a)

/-- The statements of a text, which may start with a byte order mark. -/
def statements : Reader (List Statement) := do
  discard (Reader.optionally (Reader.symbol '\ufeff'))
  gap
  let lines ← Reader.many (line <* gap)
  return lines.filterMap id

/-- The assignments before the next header, and the statements from there on. -/
def leading : List Statement → List Assignment × List Statement
  | .assign a :: rest => ((a :: (leading rest).1), (leading rest).2)
  | rest => ([], rest)

/-- The statements after the leading assignments are no more than all. -/
theorem length_leading_le (statements : List Statement) :
    (leading statements).2.length ≤ statements.length := by
  induction statements with
  | nil => simp [leading]
  | cons s rest ih =>
    cases s with
    | assign a => exact Nat.le_succ_of_le ih
    | table path key => simp [leading]
    | item path key => simp [leading]

/-- The tree after the sections that statements make up, each a header with the assignments after
it. -/
def addSections : List Statement → Tree → Option Tree
  | [], tree => some tree
  | .assign a :: rest, tree => do addSections rest (← tree.assign a.path a.key a.value)
  | .table path key :: rest, tree => do
    addSections (leading rest).2 (← tree.declare path key (assignAll (leading rest).1))
  | .item path key :: rest, tree => do
    addSections (leading rest).2 (← tree.append path key (assignAll (leading rest).1))
termination_by statements => statements.length
decreasing_by
  · exact Nat.lt_succ_self _
  · exact Nat.lt_succ_of_le (length_leading_le rest)
  · exact Nat.lt_succ_of_le (length_leading_le rest)

/-- The object that a document describes. -/
def read? (text : String) : Option Json.Value := do
  let tree ← addSections (← Reader.whole statements text.toList) []
  return .object (fieldsOf tree)

end PolicySync.Toml
