/-!
# Whole numbers in text

`natural? bound s` reads a whole number below `bound`: one or more ASCII digits, after at most one
plus sign. Nothing else is a numeral, not even a blank around it.
-/

namespace PolicySync.Text

/-- The value of an ASCII digit. -/
def digit? (c : Char) : Option Nat :=
  if '0' ≤ c ∧ c ≤ '9' then some (c.toNat - '0'.toNat) else none

/-- The number that decimal digits go on to spell after the value `acc`. -/
def digitsFrom? (acc : Nat) : List Char → Option Nat
  | [] => some acc
  | c :: cs => do digitsFrom? (10 * acc + (← digit? c)) cs

/-- The number spelled by at least one decimal digit. -/
def digits? (cs : List Char) : Option Nat :=
  if cs.isEmpty then none else digitsFrom? 0 cs

/-- The whole number below `bound` that a text spells. -/
def natural? (bound : Nat) (s : String) : Option Nat :=
  let cs := s.toList
  let digits := if cs.head? = some '+' then cs.tail else cs
  (digits? digits).filter (· < bound)

end PolicySync.Text
