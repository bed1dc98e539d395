import PolicySync.Json.Value

/-!
# Tables of a document

A document builds its tables step by step. A value is never extended, and a table is opened once:
by its own header, by a dotted key, or by implication through the header of a table within it, in
which case its own header may still follow. `Tree.assign` adds a key to a table, `Tree.declare` a
table to a tree and `Tree.append` a table to an array of tables.
-/

namespace PolicySync.Toml

/-- How a table was opened. -/
inductive Opening where
  | declared
  | dotted
  | implied
  deriving DecidableEq, Repr

/-- What stands at a key: a value, a table, or an array of tables with the last one first. -/
inductive Node where
  | value (v : Json.Value)
  | table (opening : Opening) (entries : List (String × Node))
  | array (tables : List (List (String × Node)))

/-- The entries of a table, in the order of their keys' first appearance. -/
abbrev Tree := List (String × Node)

/-- The keys that lead from one table to another. -/
abbrev Path := List String

mutual

/-- A node as a value. -/
def Node.toValue : Node → Json.Value
  | .value v => v
  | .table _ entries => .object (fieldsOf entries)
  | .array tables => .list (itemsOf tables).reverse

/-- The entries of a table as the fields of an object. -/
def fieldsOf : List (String × Node) → List (String × Json.Value)
  | [] => []
  | (key, node) :: entries => (key, node.toValue) :: fieldsOf entries

/-- The tables of an array as objects. -/
def itemsOf : List (List (String × Node)) → List Json.Value
  | [] => []
  | table :: tables => .object (fieldsOf table) :: itemsOf tables

end

namespace Tree

/-- The tree with a node in place of the one at `key`, or added at the end. -/
def put (key : String) (node : Node) : Tree → Tree
  | [] => [(key, node)]
  | (k, n) :: entries => if k = key then (k, node) :: entries else (k, n) :: put key node entries

/-- The tree with a change to the table that a path leads to, which sees how that table was opened.
Tables on the way that are missing are opened as `fresh`, and an array of tables leads to its last
one. A dotted key does not lead into a table with a header of its own. -/
def within (fresh : Opening) (change : Opening → Tree → Option Tree) :
    Path → Opening → Tree → Option Tree
  | [], opening, tree => change opening tree
  | key :: path, _, tree =>
    match tree.lookup key with
    | none => do return put key (.table fresh (← within fresh change path fresh [])) tree
    | some (.table opening entries) =>
      if fresh = .dotted ∧ opening = .declared then none
      else do return put key (.table opening (← within fresh change path opening entries)) tree
    | some (.array (last :: earlier)) => do
      return put key (.array ((← within fresh change path .declared last) :: earlier)) tree
    | some _ => none

/-- The tree with a value at a new key, which is dotted when `path` is not empty. Dots in a key
lead only to tables that dots have opened. -/
def assign (path : Path) (key : String) (v : Json.Value) (tree : Tree) : Option Tree :=
  let add (opening : Opening) (entries : Tree) : Option Tree :=
    if path ≠ [] ∧ opening ≠ .dotted then none
    else if (entries.lookup key).isSome then none
    else some (put key (.value v) entries)
  within .dotted add path .declared tree

/-- The tree with a table that `fill` fills, under a header of its own. -/
def declare (path : Path) (key : String) (fill : Tree → Option Tree) (tree : Tree) :
    Option Tree :=
  let add (_ : Opening) (entries : Tree) : Option Tree :=
    match entries.lookup key with
    | none => do return put key (.table .declared (← fill [])) entries
    | some (.table .implied inner) => do return put key (.table .declared (← fill inner)) entries
    | some _ => none
  within .implied add path .declared tree

/-- The tree with one more table, which `fill` fills, in an array of tables. -/
def append (path : Path) (key : String) (fill : Tree → Option Tree) (tree : Tree) :
    Option Tree :=
  let add (_ : Opening) (entries : Tree) : Option Tree :=
    match entries.lookup key with
    | none => do return put key (.array [← fill []]) entries
    | some (.array tables) => do return put key (.array ((← fill []) :: tables)) entries
    | some _ => none
  within .implied add path .declared tree

end Tree

end PolicySync.Toml
