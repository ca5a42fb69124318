import SchemaSeed.Decimal.Shortest

/-! Decimals of a fixed number of significant digits, and the two notations for them:
scientific, and the general one that is positional where that is short. -/

namespace SchemaSeed

namespace Decimal

/-- `count` significant digits, rounded from the exact value with ties to even, and
the power of ten that the first of them stands for. -/
def significant (count : Nat) (number : Binary64) : Text × Int :=
  if number.significand = 0 then (List.replicate count '0', 0)
  else
    let place := point number
    let scale := place - count
    let (numerator, denominator) := number.ratio
    let digits := natural (roundDivide (numerator * Nat.pow 10 (-scale).toNat)
      (denominator * Nat.pow 10 scale.toNat))
    if count < digits.length then (digits.take count, place) else (digits, place - 1)

/-- A whole part and its fraction.  The point is written before an empty fraction only
on request. -/
def pointed (keepPoint : Bool) (whole fraction : Text) : Text :=
  if fraction.isEmpty && !keepPoint then whole else whole ++ '.' :: fraction

/-- An exponent has a sign and at least two digits. -/
def exponentPart (exponent : Int) : Text :=
  let magnitude := natural exponent.natAbs
  'e' :: (if exponent < 0 then '-' else '+') ::
    (List.replicate (2 - magnitude.length) '0' ++ magnitude)

/-- One digit before the point and `places` after it. -/
def scientific (keepPoint : Bool) (places : Nat) (number : Binary64) : Text :=
  let (digits, exponent) := significant (places + 1) number
  pointed keepPoint (digits.take 1) (digits.drop 1) ++ exponentPart exponent

/-- `count` significant digits.  Zeros at the end of the fraction are dropped unless
the point is kept. -/
def general (keepPoint : Bool) (count : Nat) (number : Binary64) : Text :=
  let count := max count 1
  let (digits, exponent) := significant count number
  let fraction (written : Text) : Text :=
    if keepPoint then written else withoutTrailingZeros written
  if exponent < -4 ∨ (count : Int) ≤ exponent then
    pointed keepPoint (digits.take 1) (fraction (digits.drop 1)) ++ exponentPart exponent
  else if exponent < 0 then
    pointed keepPoint ['0'] (fraction (List.replicate (-exponent - 1).toNat '0' ++ digits))
  else
    let whole := exponent.toNat + 1
    pointed keepPoint (digits.take whole) (fraction (digits.drop whole))

end Decimal

end SchemaSeed
