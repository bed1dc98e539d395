/-!
# Lengths of time in text

`span` writes a length of time given in milliseconds: in seconds from one second on, with the
fraction only as long as needed, in milliseconds below that, and nothing at all as `0ns`.
-/

namespace PolicySync.Text

/-- The digits of a fraction of a thousand, without zeros at the end. -/
def thousandths (n : Nat) : List Char :=
  let ds := [n / 100 % 10, n / 10 % 10, n % 10].map Nat.digitChar
  (ds.reverse.dropWhile (· = '0')).reverse

/-- A length of time in milliseconds, in its largest unit. -/
def span (ms : Nat) : String :=
  if ms = 0 then "0ns"
  else if ms < 1000 then s!"{ms}ms"
  else
    let fraction := thousandths (ms % 1000)
    let point := if fraction.isEmpty then [] else ['.']
    toString (ms / 1000) ++ String.ofList (point ++ fraction) ++ "s"

end PolicySync.Text
