import PolicySync.Page
import PolicySync.Text.Numeral
import PolicySync.Text.Quoted

/-!
# Pages by offset

The memory backends page through a list with decimal offsets as tokens. No token and the empty
token mean the start, an offset past the end gives an empty page, and a page holds at least one
item when there is one.
-/

namespace PolicySync.Memory

/-- The offset that a token stands for, or what is wrong with the token. -/
def offset (token : Option String) : Except String Nat :=
  match nextToken token with
  | none => .ok 0
  | some t =>
    match Text.natural? (Nat.pow 2 64) t with
    | some n => .ok n
    | none => .error ("invalid continuation token " ++ Text.quoted t)

/-- The page of at most `limit` items from an offset on; a limit of zero counts as one. -/
def pageAt (items : List α) (offset limit : Nat) : Page α :=
  let stop := offset + max limit 1
  { items := (items.drop offset).take (max limit 1)
    next := if stop < items.length then some (toString stop) else none }

end PolicySync.Memory
