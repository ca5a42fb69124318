import SchemaSeed.Binary64
import SchemaSeed.Decimal.Natural

/-! The shortest decimal text that reads back as a given double.  Among the
decimals of the fewest digits inside the interval of reals that round to the
number, the one nearest to it is taken. -/

namespace SchemaSeed

/-- The number `digits * 10 ^ scale`. -/
structure Decimal where
  digits : Nat
  scale : Int
deriving Repr, DecidableEq

namespace Decimal

/-- Whether a candidate lies between two bounds, themselves included iff `closed`. -/
def within (closed : Bool) (low candidate high : Nat) : Bool :=
  if closed then low ≤ candidate && candidate ≤ high
  else low < candidate && candidate < high

def distance (left right : Nat) : Nat :=
  (left - right) + (right - left)

/-- The better of the two neighbours `below` and `below + 1` of a number on a
decimal grid, if one lies in the interval.  All of `unit`, `low`, `center` and
`high` are given in one common fraction. -/
def neighbour? (closed : Bool) (unit low center high : Nat) : Option Nat :=
  let below := center / unit
  let above := below + 1
  match within closed low (below * unit) high, within closed low (above * unit) high with
  | false, false => none
  | true, false => some below
  | false, true => some above
  | true, true =>
      let left := distance (below * unit) center
      let right := distance (above * unit) center
      if left < right ∨ (left = right ∧ below % 2 = 0) then some below else some above

/-- A power of ten whose product with any finite double exceeds one. -/
def magnitudeShift : Nat := 400

/-- The position of the decimal point before the first significant digit: a
positive number lies in `[10 ^ (point - 1), 10 ^ point)`. -/
def point (number : Binary64) : Int :=
  let (numerator, denominator) := number.ratio
  ((natural (numerator * Nat.pow 10 magnitudeShift / denominator)).length : Int) - magnitudeShift

/-- The decimal of `count` digits that reads back as `number`, if there is one. -/
def withDigits? (number : Binary64) (point : Int) (count : Nat) : Option Decimal :=
  let scale := point - count
  let quarter := number.exponent - 2
  let unit := Nat.pow 10 scale.toNat * Nat.pow 2 (-quarter).toNat
  let factor := Nat.pow 2 quarter.toNat * Nat.pow 10 (-scale).toNat
  let center := 4 * number.significand
  let narrow := number.significand = Binary64.hiddenBit ∧ number.exponent ≠ Binary64.leastExponent
  let low := if narrow then center - 1 else center - 2
  let high := center + 2
  (neighbour? (number.significand % 2 == 0) unit (low * factor) (center * factor)
    (high * factor)).map fun digits => ⟨digits, scale⟩

/-- Seventeen digits always suffice. -/
def sufficientDigits : Nat := 17

def shortest (number : Binary64) : Decimal :=
  let place := point number
  ((List.range sufficientDigits).findSome? fun index =>
    withDigits? number place (index + 1)).getD ⟨0, 0⟩

/-! Positional notation is kept for points from -3 to 16, and always shows a
fraction; beyond, an exponent of at least two digits follows one leading digit. -/

def positional (digits : Text) (place : Int) : Text :=
  if place ≤ 0 then
    "0." ++ List.replicate (-place).toNat '0' ++ digits
  else if digits.length ≤ place.toNat then
    digits ++ List.replicate (place.toNat - digits.length) '0' ++ ".0"
  else
    digits.take place.toNat ++ "." ++ digits.drop place.toNat

def exponential (digits : Text) (exponent : Int) : Text :=
  let magnitude := natural exponent.natAbs
  let fraction : Text := if digits.length ≤ 1 then [] else '.' :: digits.drop 1
  digits.take 1 ++ fraction ++ "e" ++ (if exponent < 0 then "-" else "+") ++
    List.replicate (2 - magnitude.length) '0' ++ magnitude

def withoutTrailingZeros (digits : Text) : Text :=
  (digits.reverse.dropWhile (· == '0')).reverse

def render (decimal : Decimal) : Text :=
  let written := natural decimal.digits
  let place := decimal.scale + written.length
  let digits := withoutTrailingZeros written
  if -4 < place ∧ place ≤ 16 then positional digits place else exponential digits (place - 1)

/-- The text of a double. -/
def ofFloat (number : Float) : Text :=
  match Binary64.ofFloat? number with
  | none =>
      if number.isNaN then "nan" else if number < 0 then "-inf" else "inf"
  | some parts =>
      let magnitude : Text := if parts.significand = 0 then "0.0" else render (shortest parts)
      if parts.negative then '-' :: magnitude else magnitude

/-! A fixed number of places rounds the exact value, a tie to the even digit. -/

def fixed (places : Nat) (number : Float) : Text :=
  match Binary64.ofFloat? number with
  | none =>
      if number.isNaN then "nan" else if number < 0 then "-inf" else "inf"
  | some parts =>
      let (numerator, denominator) := parts.ratio
      let scaled := natural (roundDivide (numerator * Nat.pow 10 places) denominator)
      let padded := List.replicate (places + 1 - scaled.length) '0' ++ scaled
      let whole := padded.length - places
      let fraction : Text := if places = 0 then [] else '.' :: padded.drop whole
      let magnitude := padded.take whole ++ fraction
      if parts.negative then '-' :: magnitude else magnitude

end Decimal

end SchemaSeed
