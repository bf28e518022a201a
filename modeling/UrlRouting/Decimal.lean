/-!
# Decimal numbers and their shortest text

A `Decimal` is a signed decimal fraction `± digits · 10 ^ exponent`, the form in which
floating values arrive as text. Its text drops trailing zeros of the digits and then puts
the point after the first digit of the scientific form `d.ddd · 10 ^ e`: the digits are
written positionally when `-4 ≤ e < 16`, with `.0` after a whole number, and otherwise as a
mantissa and an exponent with its sign and at least two digits (`1e+21`, `1.5e-07`).

When the digits are already the fewest that read back as the same double, as a shortest
printer writes them, this is the shortest text of that double.

## Main definitions

* `UrlRouting.Decimal`
* `UrlRouting.Decimal.normalize`: the same number without trailing zeros in its digits.
* `UrlRouting.Decimal.render`
-/

namespace UrlRouting

/-- A signed decimal fraction `± digits · 10 ^ exponent`. -/
structure Decimal where
  /-- Whether the sign is minus; a zero keeps its sign. -/
  negative : Bool
  /-- The digits, as one natural number. -/
  digits : Nat
  /-- The power of ten that scales the digits. -/
  exponent : Int
  deriving DecidableEq, Repr

namespace Decimal

/-- Moves trailing zeros of the digits into the exponent. -/
def trim (d : Nat) (e : Int) : Nat × Int :=
  if h : d ≠ 0 ∧ d % 10 = 0 then trim (d / 10) (e + 1) else (d, e)
termination_by d
decreasing_by exact Nat.div_lt_self (Nat.pos_of_ne_zero h.1) (by decide)

/-- The same number with no trailing zero in its digits (a zero gets exponent zero). -/
def normalize (x : Decimal) : Decimal :=
  if x.digits = 0 then { x with exponent := 0 }
  else
    let t := trim x.digits x.exponent
    { x with digits := t.1, exponent := t.2 }

/-- The exponent of the scientific form, written with its sign and at least two digits. -/
def exponentText (e : Int) : String :=
  let mag := e.natAbs
  let ds := String.ofList (Nat.toDigits 10 mag)
  (if e < 0 then "-" else "+") ++ (if mag < 10 then "0" ++ ds else ds)

/-- The text of the digits `ds` with the point `point` places from their left. -/
def positional (ds : List Char) (point : Int) : String :=
  if point ≤ 0 then
    "0." ++ String.ofList (List.replicate point.natAbs '0') ++ String.ofList ds
  else if ds.length ≤ point.toNat then
    String.ofList ds ++ String.ofList (List.replicate (point.toNat - ds.length) '0') ++ ".0"
  else
    String.ofList (ds.take point.toNat) ++ "." ++ String.ofList (ds.drop point.toNat)

/-- The shortest text of the number, positional for scientific exponents from `-4` to `15`. -/
def render (x : Decimal) : String :=
  let sign := if x.negative then "-" else ""
  let y := x.normalize
  if y.digits = 0 then sign ++ "0.0"
  else
    let ds := Nat.toDigits 10 y.digits
    let point : Int := ds.length + y.exponent
    let e := point - 1
    if e < -4 || 16 ≤ e then
      let mantissa :=
        match ds with
        | [] => "0"
        | [d] => String.singleton d
        | d :: rest => String.singleton d ++ "." ++ String.ofList rest
      sign ++ mantissa ++ "e" ++ exponentText e
    else sign ++ positional ds point

end Decimal

end UrlRouting
