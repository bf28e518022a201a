import UrlRouting.Binary64

/-!
# The shortest decimal of a binary value, and floating values

Every finite binary value is the nearest value to each decimal in an interval around it: the
reals closer to it than to its neighbours, the ends included when its mantissa is even (a tie
goes to the even mantissa). The shortest decimal of the value is the decimal with the fewest
significant digits in that interval; of two such decimals the nearer to the value is taken,
and of two equally near the one with the even last digit.

Decimals of `n` significant digits around the value are the multiples of `10 ^ t`, with `t`
set by the leading digit of the value; if any of them lies in the interval, one of the two
that enclose the value does, so only those two are tried, for `n = 1, 2, …`. Seventeen digits
always suffice.

All comparisons are exact: the value is `4m · 2 ^ (q - 2)` and the ends of its interval are
`(4m - 2) · 2 ^ (q - 2)` (or `4m - 1` just above a power of two, where the gap below is half
as wide) and `(4m + 2) · 2 ^ (q - 2)`.

A floating value is a finite binary value, an infinity or not a number; a finite one is written
as its shortest decimal (`Floating.render`).

## Main definitions

* `UrlRouting.Binary64.shortest`
* `UrlRouting.compareScaled`: `d · 10 ^ t` against `x · 2 ^ a`.
* `UrlRouting.Floating`, `UrlRouting.Floating.ofDecimal`, `UrlRouting.Floating.render`,
  `UrlRouting.Floating.isZero`, `UrlRouting.Floating.toInt?`
-/

namespace UrlRouting

/-- How `d · 10 ^ t` compares with `x · 2 ^ a`, both brought to whole numbers. -/
def compareScaled (d : Nat) (t : Int) (x : Nat) (a : Int) : Ordering :=
  let lhs := d * Nat.pow 10 (max t 0).toNat * Nat.pow 2 (max (-a) 0).toNat
  let rhs := x * Nat.pow 10 (max (-t) 0).toNat * Nat.pow 2 (max a 0).toNat
  compare lhs rhs

/-- The number of decimal digits of a natural number; zero has one. -/
def digitCount (n : Nat) : Nat := (Nat.toDigits 10 n).length

/-- The least `j` from `j` on with `num · 10 ^ j ≥ den`, looking `fuel` steps ahead. -/
def firstPowerAtLeast (num den : Nat) : Nat → Nat → Nat
  | 0, j => j
  | fuel + 1, j => if den ≤ num * Nat.pow 10 j then j else firstPowerAtLeast num den fuel (j + 1)

/-- The largest `F` with `10 ^ F ≤ num / den`, for positive `num` and `den`. -/
def floorLog10 (num den : Nat) : Int :=
  if den ≤ num then (digitCount (num / den) : Int) - 1
  else -((firstPowerAtLeast num den 400 1 : Nat) : Int)

namespace Binary64

/-- The digits of `n` significant digits that stand for the value `4m · 2 ^ a`, whose interval
runs from `lo · 2 ^ a` to `hi · 2 ^ a` (ends included when `closed`), if one of the two
multiples of `10 ^ t` around the value lies in the interval. -/
def digitsAt (m lo hi : Nat) (a : Int) (closed : Bool) (t : Int) : Option Nat :=
  let num := 4 * m * Nat.pow 2 (max a 0).toNat * Nat.pow 10 (max (-t) 0).toNat
  let den := Nat.pow 2 (max (-a) 0).toNat * Nat.pow 10 (max t 0).toNat
  let below := num / den
  let inside := fun (d : Nat) =>
    let aboveLow := match compareScaled d t lo a with
      | .gt => true
      | .eq => closed
      | .lt => false
    let belowHigh := match compareScaled d t hi a with
      | .lt => true
      | .eq => closed
      | .gt => false
    aboveLow && belowHigh
  match inside below, inside (below + 1) with
  | true, true =>
    match compareScaled (2 * below + 1) t (8 * m) a with
    | .gt => some below
    | .lt => some (below + 1)
    | .eq => some (if below % 2 = 0 then below else below + 1)
  | true, false => some below
  | false, true => some (below + 1)
  | false, false => none

/-- The exact decimal of a value: `m · 2 ^ q`, or `m · 5 ^ -q · 10 ^ q` for a negative `q`. -/
def exact (x : Binary64) : Decimal :=
  if 0 ≤ x.exponent then ⟨x.negative, x.mantissa * Nat.pow 2 x.exponent.toNat, 0⟩
  else ⟨x.negative, x.mantissa * Nat.pow 5 x.exponent.natAbs, x.exponent⟩

/-- The shortest decimal of a value, with its sign; a zero is `0` with its sign. -/
def shortest (x : Binary64) : Decimal :=
  if x.mantissa = 0 then ⟨x.negative, 0, 0⟩
  else
    let m := x.mantissa
    let a := x.exponent - 2
    let lo := if m = Nat.pow 2 52 ∧ minExponent < x.exponent then 4 * m - 1 else 4 * m - 2
    let hi := 4 * m + 2
    let closed := m % 2 == 0
    let lead := floorLog10 (4 * m * Nat.pow 2 (max a 0).toNat) (Nat.pow 2 (max (-a) 0).toNat)
    let found := (List.range 17).findSome? fun (i : Nat) =>
      let t := lead - (i : Int)
      (digitsAt m lo hi a closed t).map fun d => (d, t)
    match found with
    | some (d, t) => ⟨x.negative, d, t⟩
    | none => x.exact

end Binary64

/-!
### Floating values

A floating value is a finite binary value (`Binary64`), an infinity of either sign, or not a
number. A decimal read as a floating value is the nearest finite value, or an infinity of its
sign when it is too large (`ofDecimal`). A finite value is written as its shortest decimal
(`Binary64.shortest`, laid out by `Decimal.render`), the infinities as `inf` and `-inf`, and
not-a-number as `nan`. Zero is the only false floating value; an infinity and not-a-number
are true.
-/

/-- A floating value: finite, infinite with a sign, or not a number. -/
inductive Floating where
  /-- A finite value. -/
  | finite (x : Binary64)
  /-- An infinity, negative or positive. -/
  | inf (negative : Bool)
  /-- Not a number. -/
  | nan
  deriving DecidableEq, Repr

namespace Floating

/-- Positive zero. -/
def zero : Floating := .finite ⟨false, 0, Binary64.minExponent⟩

/-- The floating value nearest a decimal: an infinity of its sign when it is too large. -/
def ofDecimal (x : Decimal) : Floating :=
  match Binary64.ofDecimal x with
  | some b => .finite b
  | none => .inf x.negative

/-- The text of a floating value. -/
def render : Floating → String
  | .finite x => x.shortest.render
  | .inf negative => if negative then "-inf" else "inf"
  | .nan => "nan"

/-- Whether the value is a zero of either sign. -/
def isZero : Floating → Bool
  | .finite x => x.isZero
  | _ => false

/-- The integer a whole finite value is; a zero of either sign is `0`. -/
def toInt? : Floating → Option Int
  | .finite x => x.toInt?
  | _ => none

end Floating

end UrlRouting
