import PolicySync.Calendar
import PolicySync.Toml.Number

/-!
# Dates and times

A date, a time of day, or both with or without an offset from universal time. The date has to
exist in the calendar; the second may be a leap second.
-/

namespace PolicySync.Toml

open Text (Reader)

/-- A number of two digits from `low` to `high`. -/
def twoDigits (low high : Nat) : Reader Nat := do
  let n ← Reader.number 10 2
  if low ≤ n ∧ n ≤ high then return n else failure

/-- A date. -/
def date : Reader Unit := do
  let year ← Reader.number 10 4
  Reader.symbol '-'
  let month ← twoDigits 1 12
  Reader.symbol '-'
  discard (twoDigits 1 (daysOf year month))

/-- A time of day. -/
def time : Reader Unit := do
  discard (twoDigits 0 23)
  Reader.symbol ':'
  discard (twoDigits 0 59)
  Reader.symbol ':'
  discard (twoDigits 0 60)
  discard (Reader.optionally (Reader.symbol '.' *> Reader.separated (Reader.digit 10) (pure ())))

/-- An offset from universal time. -/
def offset : Reader Unit :=
  discard (Reader.oneOf ['Z', 'z'])
    <|> do
      discard (Reader.oneOf ['+', '-'])
      discard (twoDigits 0 23)
      Reader.symbol ':'
      discard (twoDigits 0 59)

/-- A date, a time, or both. It reads as an object, so no setting takes it for text or a number. -/
def moment : Reader Json.Value := do
  (do date
      let mark := Reader.oneOf ['T', 't', ' ']
      discard (Reader.optionally (mark *> time *> Reader.optionally offset)))
    <|> time
  return .object [("moment", .null)]

end PolicySync.Toml
