import UrlRouting.Decimal

/-!
# Binary floating values

A `Binary64` is a finite value of the 64-bit binary interchange format: a sign and
`mantissa · 2 ^ exponent`, with the mantissa below `2 ^ 53` and the exponent at least `-1074`.
Every value has one form: a normal value has a mantissa of exactly 53 bits, a smaller one has
the least exponent, and zero is `0 · 2 ^ -1074` with either sign. Two values are equal
numbers exactly when their forms are equal, or both are zeros.

A decimal is read as the nearest such value, a tie going to the even mantissa
(`ofDecimal`); a decimal too large for the format has none. The integer a value is, if it is
whole, is `toInt?`.

## Main definitions

* `UrlRouting.Binary64`, `UrlRouting.Binary64.ofDecimal`, `UrlRouting.Binary64.toInt?`
* `UrlRouting.roundHalfEven`, `UrlRouting.floorLog2`
-/

namespace UrlRouting

/-- The quotient `n / d` rounded to the nearest natural number, a tie going to the even one. -/
def roundHalfEven (n d : Nat) : Nat :=
  let q := n / d
  let r := n % d
  if 2 * r < d then q else if d < 2 * r then q + 1 else q + q % 2

/-- Whether `num / den` is at least `2 ^ k`. -/
def atLeastPow2 (num den : Nat) (k : Int) : Bool :=
  if 0 ≤ k then den * Nat.pow 2 k.toNat ≤ num else den ≤ num * Nat.pow 2 k.natAbs

/-- The largest `k` with `2 ^ k ≤ num / den`, for positive `num` and `den`: it is the difference
of the two bit lengths, or one less. -/
def floorLog2 (num den : Nat) : Int :=
  let k : Int := (Nat.log2 num : Int) - (Nat.log2 den : Int)
  if atLeastPow2 num den k then k else k - 1

/-- A finite value of the 64-bit binary format. -/
structure Binary64 where
  /-- Whether the sign is minus; a zero keeps its sign. -/
  negative : Bool
  /-- The mantissa, below `2 ^ 53`. -/
  mantissa : Nat
  /-- The power of two that scales the mantissa, at least `-1074`. -/
  exponent : Int
  deriving DecidableEq, Repr

namespace Binary64

/-- The least exponent. -/
def minExponent : Int := -1074

/-- The greatest exponent of a finite value. -/
def maxExponent : Int := 971

/-- The nearest value to a decimal, a tie going to the even mantissa, or none when the decimal
is too large for the format. -/
def ofDecimal (x : Decimal) : Option Binary64 :=
  if x.digits = 0 then some ⟨x.negative, 0, minExponent⟩
  else
    let (num, den) :=
      if 0 ≤ x.exponent then (x.digits * Nat.pow 10 x.exponent.toNat, 1)
      else (x.digits, Nat.pow 10 x.exponent.natAbs)
    let q := max (floorLog2 num den - 52) minExponent
    let m :=
      if 0 ≤ q then roundHalfEven num (den * Nat.pow 2 q.toNat)
      else roundHalfEven (num * Nat.pow 2 q.natAbs) den
    let (m, q) := if m = Nat.pow 2 53 then (Nat.pow 2 52, q + 1) else (m, q)
    if maxExponent < q then none else some ⟨x.negative, m, q⟩

/-- Whether the value is a zero of either sign. -/
def isZero (x : Binary64) : Bool := x.mantissa == 0

/-- The integer a whole value is; a zero of either sign is `0`. -/
def toInt? (x : Binary64) : Option Int :=
  let sign := fun (n : Nat) => if x.negative then -(n : Int) else (n : Int)
  if x.mantissa = 0 then some 0
  else if 0 ≤ x.exponent then some (sign (x.mantissa * Nat.pow 2 x.exponent.toNat))
  else
    let p := Nat.pow 2 x.exponent.natAbs
    if x.mantissa % p = 0 then some (sign (x.mantissa / p)) else none

/-- Whether two values are the same number: equal forms, or two zeros. -/
def sameNumber (x y : Binary64) : Bool := (x.isZero && y.isZero) || x == y

end Binary64

end UrlRouting
