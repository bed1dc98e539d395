/-!
# Pages

A long list comes in pages. A page says with a token how to ask for the next one; no token and an
empty token both say that there is none.
-/

namespace PolicySync

/-- A part of a long list, and the token of the part that follows. -/
structure Page (α : Type) where
  items : List α
  next : Option String := none
  deriving Inhabited

/-- A token that asks for a further page; an empty one asks for none. -/
def nextToken (token : Option String) : Option String := token.filter (!·.isEmpty)

/-- A token that is not empty names the next page. -/
theorem nextToken_eq_some_iff {token : Option String} {next : String} :
    nextToken token = some next ↔ token = some next ∧ next ≠ "" := by
  simp [nextToken, Option.filter_eq_some_iff]

/-- No token, or an empty one, says that there is none. -/
theorem nextToken_eq_none_iff {token : Option String} :
    nextToken token = none ↔ token = none ∨ token = some "" := by
  cases token <;> simp [nextToken, Option.filter]

end PolicySync
