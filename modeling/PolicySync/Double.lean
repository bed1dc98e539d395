/-!
# The range of doubles

A number whose magnitude reaches `Double.limit` rounds to no double. `Double.overflows` says this
of a decimal number, and `Double.productOverflows` of one that is computed as the product of its
leading digits and a power of ten, each rounded to a double before. The two differ only within a
few units in the last place of the limit.
-/

namespace PolicySync.Double

/-- The middle between the largest double and the next power of two, from which on numbers are too
large to be rounded to a double. -/
def limit : Nat := Nat.pow 2 1024 - Nat.pow 2 970

/-- Whether `m · 10 ^ e` is too large for a double. -/
def overflows (m : Nat) (e : Int) : Bool :=
  if m = 0 then false
  else if 0 ≤ e then 400 < e || limit ≤ m * Nat.pow 10 e.toNat
  else
    let places := (Nat.toDigits 10 m).length
    (-e).toNat < places && limit * Nat.pow 10 (-e).toNat ≤ m

/-- The nearest number with at most 53 significant bits, the even one of two. -/
def nearest (n : Nat) : Nat :=
  let unit := Nat.pow 2 (n.log2 - 52)
  let whole := n / unit
  let twice := 2 * (n % unit)
  let up := unit < twice || (twice = unit && whole % 2 = 1)
  (if up then whole + 1 else whole) * unit

/-- Whether the product of `m` and `10 ^ e`, each rounded to a double, is too large for a double.
The largest power of ten that is a double is the one with exponent 308. -/
def productOverflows (m : Nat) (e : Int) : Bool :=
  m ≠ 0 && 0 ≤ e && (308 < e || limit ≤ nearest m * nearest (Nat.pow 10 e.toNat))

end PolicySync.Double
