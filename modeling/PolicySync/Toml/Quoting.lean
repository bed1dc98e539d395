import PolicySync.Toml.Blank

/-!
# Strings

A string stands between double quotes, where a backslash starts an escape, or between single
quotes, where every character stands for itself. Between three quotes it may span lines: a line
end right after the opening is dropped, every other one is a line feed, and one or two quotes
within it belong to the text, also right before the closing.
-/

namespace PolicySync.Toml

open Text (Reader)

/-- The character with a code point of `n` hexadecimal digits. -/
def codePoint (n : Nat) : Reader Char := do
  let point ← Reader.number 16 n
  if point.isValidChar then return Char.ofNat point else failure

/-- The characters that a backslash and one letter stand for. -/
def shortEscapes : List (Char × Char) :=
  [('b', '\x08'), ('f', '\x0c'), ('n', '\n'), ('r', '\r'), ('t', '\t'), ('"', '"'), ('\\', '\\')]

/-- A character written with a backslash. -/
def escape : Reader Char := do
  Reader.symbol '\\'
  let c ← Reader.satisfying fun _ => true
  if c = 'u' then codePoint 4
  else if c = 'U' then codePoint 8
  else (shortEscapes.lookup c : Option Char)

/-- A backslash at the end of a line, which takes all blanks and line ends after it along. -/
def lineJoin : Reader Unit := do
  Reader.symbol '\\'
  gap
  newline
  discard (Reader.many (discard (Reader.satisfying isGap) <|> newline))

/-- Whether a character stands for itself between quotes `q`. -/
def isBare (q c : Char) : Bool := isPlain c && c ≠ q && (q = '\'' || c ≠ '\\')

/-- A piece of a string between quotes `q`; only double quotes have escapes. -/
def piece (q : Char) : Reader (List Char) :=
  Reader.takeSome (isBare q) <|> (if q = '"' then return [← escape] else failure)

/-- A string on one line between quotes `q`. -/
def lineString (q : Char) : Reader String := do
  Reader.symbol q
  let pieces ← Reader.many (piece q)
  Reader.symbol q
  return String.ofList pieces.flatten

/-- One or two quotes within a string between three quotes. -/
def innerQuotes (q : Char) : Reader (List Char) := do
  let qs ← Reader.takeWhile (· = q)
  if qs.length = 1 ∨ qs.length = 2 then return qs else failure

/-- The closing of a string between three quotes, with the quotes of the text right before it. -/
def closing (q : Char) : Reader (List Char) := do
  let qs ← Reader.takeWhile (· = q)
  if 3 ≤ qs.length ∧ qs.length ≤ 5 then return qs.drop 3 else failure

/-- A piece of a string between three quotes `q`. -/
def blockPiece (q : Char) : Reader (List Char) :=
  (if q = '"' then lineJoin *> pure [] else failure)
    <|> piece q
    <|> (newline *> pure ['\n'])
    <|> innerQuotes q

/-- A string between three quotes `q`. -/
def blockString (q : Char) : Reader String := do
  Reader.exactly [q, q, q]
  discard (Reader.optionally newline)
  let pieces ← Reader.many (blockPiece q)
  let last ← closing q
  return String.ofList (pieces.flatten ++ last)

/-- A string in any of its forms. -/
def anyString : Reader String :=
  blockString '"' <|> lineString '"' <|> blockString '\'' <|> lineString '\''

end PolicySync.Toml
