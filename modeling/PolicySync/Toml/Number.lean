import PolicySync.Double
import PolicySync.Json.Value
import PolicySync.Toml.Quoting

/-!
# Numbers

An integer fits 64 bits with a sign and is written in base ten, or without a sign in base two,
eight or sixteen after a mark. Single underscores may stand between digits. A fraction or an
exponent makes a number a float; one that is too large for a double is refused, unless it is
negative.
-/

namespace PolicySync.Toml

open Text (Reader spelled)

/-- Digits of a base with single underscores between them. -/
def digits (base : Nat) : Reader (List Char) :=
  Reader.separated (Reader.digit base) (Reader.optionally (Reader.symbol '_'))

/-- A sign, and whether it is a minus. -/
def sign : Reader Bool := do
  return (← Reader.optionally (Reader.oneOf ['+', '-'])) = some '-'

/-- A sign and decimal digits, the first of several not being zero. -/
def decimal : Reader (Bool × List Char) := do
  let negative ← sign
  let ds ← digits 10
  if ds.head? = some '0' ∧ ds.length ≠ 1 then failure
  return (negative, ds)

/-- A whole number that fits 64 bits with a sign. -/
def fitting (n : Int) : Reader Json.Value :=
  if -(Nat.pow 2 63) ≤ n ∧ n < Nat.pow 2 63 then return .int n else failure

/-- A whole number in the base that the letter after a zero stands for. -/
def marked : Reader Json.Value := do
  Reader.symbol '0'
  let c ← Reader.oneOf ['x', 'o', 'b']
  let base := if c = 'x' then 16 else if c = 'o' then 8 else 2
  fitting (spelled base (← digits base))

/-- A whole number in base ten. -/
def whole : Reader Json.Value := do
  let (negative, ds) ← decimal
  let n : Int := spelled 10 ds
  fitting (if negative then -n else n)

/-- The power of ten after a number. -/
def exponent : Reader Int := do
  discard (Reader.oneOf ['e', 'E'])
  let negative ← sign
  let n : Int := spelled 10 (← digits 10)
  return if negative then -n else n

/-- A number with a fraction, an exponent or both. -/
def float : Reader Json.Value := do
  let (negative, ds) ← decimal
  let fraction ← Reader.optionally (Reader.symbol '.' *> digits 10)
  let power ← if fraction.isSome then Reader.optionally exponent else some <$> exponent
  let fs := fraction.getD []
  let e := power.getD 0 - fs.length
  let m := spelled 10 (ds ++ fs)
  if !negative && Double.overflows m e then failure
  return .decimal ((if negative then "-" else "") ++ toString m ++ "e" ++ toString e)

/-- Infinity or no number at all, with a sign. -/
def special : Reader Json.Value := do
  let negative ← sign
  let word ← (Reader.exactly ['i', 'n', 'f'] *> pure "inf")
    <|> (Reader.exactly ['n', 'a', 'n'] *> pure "nan")
  return .decimal ((if negative then "-" else "") ++ word)

end PolicySync.Toml
