/-!
# Readers of text

A `Reader` takes what it recognises off the front of a text, or fails and takes nothing. Where two
readers are alternatives, the second starts over where the first did. `Reader.many` reads on only
while the text gets shorter, so every reader built from these comes to an end.
-/

namespace PolicySync.Text

/-- Reads a value off the front of a text. -/
abbrev Reader := StateT (List Char) Option

namespace Reader

variable {α β : Type}

/-- A character that satisfies `p`. -/
def satisfying (p : Char → Bool) : Reader Char
  | [] => none
  | c :: cs => if p c then some (c, cs) else none

/-- The character `c`. -/
def symbol (c : Char) : Reader Unit := discard (satisfying (· = c))

/-- One character of a list. -/
def oneOf (cs : List Char) : Reader Char := satisfying (cs.contains ·)

/-- All characters from here on that satisfy `p`, perhaps none. -/
def takeWhile (p : Char → Bool) : Reader (List Char) := fun cs =>
  some (cs.takeWhile p, cs.dropWhile p)

/-- The characters of `word` in order. -/
def exactly (word : List Char) : Reader Unit := fun cs =>
  if word.isPrefixOf cs then some ((), cs.drop word.length) else none

/-- What `read` reads, if it reads anything. -/
def optionally (read : Reader α) : Reader (Option α) := (some <$> read) <|> pure none

/-- All characters from here on that satisfy `p`, at least one. -/
def takeSome (p : Char → Bool) : Reader (List Char) := fun cs =>
  let taken := cs.takeWhile p
  if taken.isEmpty then none else some (taken, cs.dropWhile p)

/-- What `read` reads again and again, after what has been read already, the last first. -/
def manyAfter (read : Reader α) (earlier : List α) (cs : List Char) : List α × List Char :=
  match read cs with
  | none => (earlier.reverse, cs)
  | some (a, rest) =>
    if rest.length < cs.length then manyAfter read (a :: earlier) rest else (earlier.reverse, cs)
termination_by cs.length

/-- What `read` reads again and again, perhaps nothing. -/
def many (read : Reader α) : Reader (List α) := fun cs => some (manyAfter read [] cs)

/-- What `read` reads one or more times, with `separator` in between. -/
def separated (read : Reader α) (separator : Reader β) : Reader (List α) := do
  let first ← read
  let others ← many (separator *> read)
  return first :: others

/-- The end of the text. -/
def ended : Reader Unit
  | [] => some ((), [])
  | _ :: _ => none

/-- What a reader reads from a whole text, of which nothing may be left. -/
def whole (read : Reader α) (cs : List Char) : Option α := ((read <* ended).run cs).map (·.1)

end Reader

end PolicySync.Text
