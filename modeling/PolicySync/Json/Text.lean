import PolicySync.Double
import PolicySync.Json.Value
import PolicySync.Text.Digit

/-!
# JSON as text

`read?` gives the value that a text spells, or nothing when the text breaks the grammar. A part
that keeps to the grammar can still stand for no value: a number too large for a double, a string
with half of a surrogate pair, an object with such a string for a name, and brackets within too
many others. Such a part is read as `Value.unreadable`, so that it matters only to those who look
at it.
-/

namespace PolicySync.Json

open Text (Reader)

/-- How many brackets may be open at once. -/
def depthLimit : Nat := 127

/-- Blanks and line ends between the parts of a value. -/
def gap : Reader Unit := discard (Reader.takeWhile [' ', '\t', '\n', '\r'].contains)

/-! ## Strings -/

/-- Whether a code unit is the first half of a surrogate pair. -/
def isLead (unit : Nat) : Bool := 0xd800 ≤ unit && unit < 0xdc00

/-- Whether a code unit is the second half of a surrogate pair. -/
def isTrail (unit : Nat) : Bool := 0xdc00 ≤ unit && unit < 0xe000

/-- The code point of a surrogate pair. -/
def paired (lead trail : Nat) : Nat := 0x10000 + 0x400 * (lead - 0xd800) + (trail - 0xdc00)

/-- A code unit written as an escape. -/
def unitEscape : Reader Nat := Reader.exactly ['\\', 'u'] *> Reader.number 16 4

/-- The second half of a surrogate pair, written as an escape. -/
def trailEscape : Reader Nat := do
  let unit ← unitEscape
  if isTrail unit then return unit else failure

/-- A character written by its code units. Half of a pair stands for none. -/
def codeEscape : Reader (Option Char) := do
  let unit ← unitEscape
  if isLead unit then
    return (← Reader.optionally trailEscape).map fun trail => Char.ofNat (paired unit trail)
  else return if isTrail unit then none else some (Char.ofNat unit)

/-- The characters that a backslash and one letter stand for. -/
def letterEscapes : List (Char × Char) :=
  [('"', '"'), ('\\', '\\'), ('/', '/'), ('b', '\x08'), ('f', '\x0c'), ('n', '\n'), ('r', '\r'),
    ('t', '\t')]

/-- A character written with a backslash and one letter. -/
def letterEscape : Reader Char := do
  Reader.symbol '\\'
  let c ← Reader.satisfying fun _ => true
  (letterEscapes.lookup c : Option Char)

/-- Whether a character stands for itself in a string. -/
def isBare (c : Char) : Bool := ' ' ≤ c && c ≠ '"' && c ≠ '\\'

/-- A piece of a string. -/
def piece : Reader (Option (List Char)) :=
  (some <$> Reader.takeSome isBare)
    <|> ((fun c => some [c]) <$> letterEscape)
    <|> (Option.map ([·]) <$> codeEscape)

/-- A string between quotes, unless some piece of it stands for no character. -/
def text : Reader (Option String) := do
  Reader.symbol '"'
  let pieces ← Reader.many piece
  Reader.symbol '"'
  return (pieces.mapM id).map fun ps => String.ofList ps.flatten

/-! ## Numbers -/

/-- At least one decimal digit. -/
def digits : Reader (List Char) := Reader.takeSome (Text.isDigitIn 10)

/-- The power of ten after a number. -/
def exponent : Reader Int := do
  discard (Reader.oneOf ['e', 'E'])
  let sign ← Reader.optionally (Reader.oneOf ['+', '-'])
  let n : Int := Text.spelled 10 (← digits)
  return if sign = some '-' then -n else n

/-- A number without fraction and exponent. It is whole if it fits 64 bits, a minus making it
signed; and minus zero is not whole. -/
def wholeOrNot (negative : Bool) (n : Nat) : Option Value :=
  if negative then if 0 < n ∧ n ≤ Nat.pow 2 63 then some (.int (-n)) else none
  else if n < Nat.pow 2 64 then some (.int n) else none

/-- What the leading digits spell, as far as they fit 64 bits when they follow a number, and how
many digits are left. -/
def leading (n : Nat) : List Char → Nat × Nat
  | [] => (n, 0)
  | d :: ds =>
    let next := 10 * n + Text.spelled 10 [d]
    if next < Nat.pow 2 64 then leading next ds else (n, ds.length + 1)

/-- Whether a number with these digits, times a power of ten, is out of range. Only the digits that
fit 64 bits count. -/
def outOfRange (ds : List Char) (e : Int) : Bool :=
  let (m, left) := leading 0 ds
  Double.productOverflows m (e + left)

/-- A number. -/
def number : Reader Value := do
  let negative := (← Reader.optionally (Reader.symbol '-')).isSome
  let ds ← digits
  if ds.head? = some '0' ∧ ds.length ≠ 1 then failure
  let fraction ← Reader.optionally (Reader.symbol '.' *> digits)
  let power ← Reader.optionally exponent
  let whole := if fraction.isNone && power.isNone then
    wholeOrNot negative (Text.spelled 10 ds) else none
  let fs := fraction.getD []
  let e := power.getD 0 - fs.length
  let decimal :=
    (if negative then "-" else "") ++ toString (Text.spelled 10 (ds ++ fs)) ++ "e" ++ toString e
  return whole.getD (if outOfRange (ds ++ fs) e then .unreadable else .decimal decimal)

/-! ## Values -/

/-- What `item` reads any number of times, with commas in between, from one bracket to another. -/
def bracketed (first last : Char) (item : Reader α) : Reader (List α) := do
  Reader.symbol first
  gap
  let items ← Reader.optionally (Reader.separated (item <* gap) (Reader.symbol ',' <* gap))
  Reader.symbol last
  return items.getD []

/-- A name and a value that `item` reads. -/
def entry (item : Reader Value) : Reader (Option String × Value) := do
  let name ← text
  gap
  Reader.symbol ':'
  gap
  return (name, ← item)

/-- A value without brackets. -/
def scalar : Reader Value :=
  ((fun s => (s.map .str).getD .unreadable) <$> text)
    <|> number
    <|> (Reader.exactly ['t', 'r', 'u', 'e'] *> pure (.bool true))
    <|> (Reader.exactly ['f', 'a', 'l', 's', 'e'] *> pure (.bool false))
    <|> (Reader.exactly ['n', 'u', 'l', 'l'] *> pure .null)

/-- A field as it was read, if it has a name. -/
def named? (e : Option String × Value) : Option (String × Value) := e.1.map (·, e.2)

/-- The object with fields as they were read, if each has a name. -/
def objectOf (entries : List (Option String × Value)) : Value :=
  ((entries.mapM named?).map .object).getD .unreadable

/-- A value within `depth` brackets, in which less than `fuel` brackets are open at once. -/
def anyValue (fuel depth : Nat) : Reader Value := fun cs =>
  match fuel with
  | 0 => none
  | fuel + 1 =>
    let item := anyValue fuel (depth + 1)
    let limited (v : Value) : Value := if depth < depthLimit then v else .unreadable
    let read : Reader Value := scalar
      <|> ((fun items => limited (.list items)) <$> bracketed '[' ']' item)
      <|> ((fun entries => limited (objectOf entries)) <$> bracketed '\x7b' '\x7d' (entry item))
    read cs

/-- The value that a text spells. No more brackets are open at once than it has
characters. -/
def read? (s : String) : Option Value :=
  let cs := s.toList
  Reader.whole (gap *> anyValue (cs.length + 1) 0 <* gap) cs

end PolicySync.Json
