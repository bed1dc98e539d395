import PolicySync.Text.Digit

/-!
# Blanks, line ends and comments

What may stand between the parts of a document.
-/

namespace PolicySync.Toml

open Text (Reader)

/-- A tab or any character that is no ASCII control: what may stand in comments and strings. -/
def isPlain (c : Char) : Bool := c = '\t' || (' ' ≤ c && c ≠ '\x7f')

/-- A blank within a line. -/
def isGap (c : Char) : Bool := c = ' ' || c = '\t'

/-- Blanks within a line, perhaps none. -/
def gap : Reader Unit := discard (Reader.takeWhile isGap)

/-- The end of a line: a line feed, alone or after a carriage return. -/
def newline : Reader Unit := Reader.exactly ['\n'] <|> Reader.exactly ['\r', '\n']

/-- A comment up to the end of its line. -/
def comment : Reader Unit := Reader.symbol '#' *> discard (Reader.takeWhile isPlain)

/-- The end of a line or of the document. -/
def lineEnd : Reader Unit := newline <|> Reader.ended

/-- What may follow a statement on its line. -/
def trailing : Reader Unit := do
  gap
  discard (Reader.optionally comment)
  lineEnd

/-- Blanks, comments and line ends, as they may stand between the items of an array. -/
def spread : Reader Unit := do
  gap
  discard (Reader.many (Reader.optionally comment *> newline *> gap))

end PolicySync.Toml
