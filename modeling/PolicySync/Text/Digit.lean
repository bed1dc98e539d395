import PolicySync.Text.Reader

/-!
# Digits and what they spell

Digits in bases up to sixteen, and the numbers that rows of them spell.
-/

namespace PolicySync.Text

/-- The value of a hexadecimal digit. -/
def hexDigit? (c : Char) : Option Nat :=
  if '0' ≤ c ∧ c ≤ '9' then some (c.toNat - '0'.toNat)
  else if 'a' ≤ c ∧ c ≤ 'f' then some (c.toNat - 'a'.toNat + 10)
  else if 'A' ≤ c ∧ c ≤ 'F' then some (c.toNat - 'A'.toNat + 10)
  else none

/-- The value of a digit in a base up to sixteen. -/
def digitIn? (base : Nat) (c : Char) : Option Nat := (hexDigit? c).filter (· < base)

/-- Whether a character is a digit of a base. -/
def isDigitIn (base : Nat) (c : Char) : Bool := (digitIn? base c).isSome

/-- The number that digits of a base spell. -/
def spelled (base : Nat) (ds : List Char) : Nat :=
  ds.foldl (fun n c => base * n + (digitIn? base c).getD 0) 0

namespace Reader

/-- A digit of a base. -/
def digit (base : Nat) : Reader Char := satisfying (isDigitIn base)

/-- Exactly `n` digits of a base. -/
def digits (base : Nat) : Nat → Reader (List Char)
  | 0 => pure []
  | n + 1 => do
    let c ← digit base
    return c :: (← digits base n)

/-- The number that exactly `n` digits of a base spell. -/
def number (base n : Nat) : Reader Nat := return spelled base (← digits base n)

end Reader

end PolicySync.Text
