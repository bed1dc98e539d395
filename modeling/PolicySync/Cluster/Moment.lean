import PolicySync.Calendar
import PolicySync.Text.Blank
import PolicySync.Text.Digit

/-!
# Moments

The times at which the objects of a cluster came into being or are to go. A moment is a date, a
time of day and an offset from universal time, with blanks before any part. Numbers may have fewer
digits than usual, but the date has to exist, and the second may be a leap second. The years are
those that the calendar covers, and the moment must lie in them also when told in universal time.
-/

namespace PolicySync.Cluster

open Text (Reader)

/-- A day of the calendar. -/
structure Day where
  year : Int
  month : Nat
  day : Nat
  deriving DecidableEq, Repr

/-- The first day that there is. -/
def firstDay : Day := ⟨-262143, 1, 1⟩

/-- The last day that there is. -/
def lastDay : Day := ⟨262142, 12, 31⟩

/-- The years that there are. -/
def isYear (year : Int) : Bool := firstDay.year ≤ year && year ≤ lastDay.year

/-- The minutes of a day. -/
def dayMinutes : Nat := 24 * 60

/-- Whether a number of minutes from the start of a day on, which may point to the day before or
after it, does not lead out of the calendar. -/
def within (day : Day) (minutes : Int) : Bool :=
  !(day = firstDay && minutes < 0) && !(day = lastDay && dayMinutes ≤ minutes)

/-- Blanks, perhaps none. -/
def blanks : Reader Unit := discard (Reader.takeWhile Text.isBlank)

/-- A decimal number of at least one digit, of which no more than `width` are taken. -/
def shortNumber (width : Nat) : Reader Nat := fun cs =>
  let ds := (cs.take width).takeWhile (Text.isDigitIn 10)
  if ds.isEmpty then none else some (Text.spelled 10 ds, cs.drop ds.length)

/-- After blanks a number of one or two digits from `low` to `high`. -/
def numberWithin (low high : Nat) : Reader Nat := do
  blanks
  let n ← shortNumber 2
  if low ≤ n ∧ n ≤ high then return n else failure

/-- A year: up to four digits, or any number of them after a sign. -/
def year : Reader Int := do
  blanks
  let signed : Reader Int := do
    let sign ← Reader.oneOf ['+', '-']
    let n : Int := Text.spelled 10 (← Reader.takeSome (Text.isDigitIn 10))
    return if sign = '-' then -n else n
  let y ← signed <|> Int.ofNat <$> shortNumber 4
  if isYear y then return y else failure

/-- A mark after blanks. -/
def mark (c : Char) : Reader Unit := blanks *> Reader.symbol c

/-- A date. -/
def date : Reader Day := do
  let y ← year
  mark '-'
  let month ← numberWithin 1 12
  mark '-'
  let day ← numberWithin 1 (daysOf y month)
  return ⟨y, month, day⟩

/-- The minute of a time of day. -/
def time : Reader Nat := do
  let hour ← numberWithin 0 23
  mark ':'
  let minute ← numberWithin 0 59
  mark ':'
  discard (numberWithin 0 60)
  discard (Reader.optionally (Reader.symbol '.' *> Reader.takeSome (Text.isDigitIn 10)))
  return 60 * hour + minute

/-- An offset from universal time of less than a day, in minutes. The minus may be the hyphen or
the sign. -/
def offset : Reader Int := do
  let sign ← Reader.oneOf ['+', '-', '−']
  let hours ← Reader.number 10 2
  discard (Reader.takeWhile fun c => c = ':' || Text.isBlank c)
  let minutes ← Reader.number 10 2
  if 60 ≤ minutes ∨ 24 ≤ hours then failure
  let total : Int := 60 * hours + minutes
  return if sign = '+' then total else -total

/-- Universal time, by its name or its letter. -/
def universal : Reader Int :=
  (Reader.oneOf ['U', 'u'] *> Reader.oneOf ['T', 't'] *> Reader.oneOf ['C', 'c'] *> pure 0)
    <|> (Reader.oneOf ['Z', 'z'] *> pure 0)

/-- A moment. -/
def moment : Reader Unit := do
  let day ← date
  discard (Reader.oneOf ['T', 't', ' '])
  let minute ← time
  blanks
  let ahead ← universal <|> offset
  blanks
  if !within day (minute - ahead) then failure

/-- Whether a text is a moment. -/
def isMoment (s : String) : Bool := (Reader.whole moment s.toList).isSome

end PolicySync.Cluster
