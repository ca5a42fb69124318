import SchemaSeed.Binary64
import SchemaSeed.Decimal.Natural
import SchemaSeed.Text.LowerCase

/-! Doubles written as decimal numerals: digits with or without a point, an exponent of
ten if need be, and words for what has no digits. -/

namespace SchemaSeed

namespace Binary64

/-- Beyond these powers of ten a number is infinite, or zero. -/
def greatestPower : Int := 310

def leastPower : Int := -330

/-- The double nearest to `digits * 10 ^ power`. -/
def ofDecimal (digits : Nat) (power : Int) : Float :=
  let leading := (Decimal.natural digits).length + power
  if digits = 0 ∨ leading < leastPower then 0
  else if greatestPower < leading then Float.ofBits (UInt64.ofNat infinityBits)
  else nearest (digits * Nat.pow 10 power.toNat) (Nat.pow 10 (-power).toNat)

def exponent? : Text → Option Int
  | [] => some 0
  | mark :: rest =>
      let (negative, digits) :=
        match rest with
        | '-' :: digits => (true, digits)
        | '+' :: digits => (false, digits)
        | digits => (false, digits)
      if (mark = 'e' ∨ mark = 'E') ∧ !digits.isEmpty ∧ digits.all Char.isDigit then
        let magnitude : Int := Decimal.value digits
        some (if negative then -magnitude else magnitude)
      else none

/-- Digits with or without a point, at least one of them, and an exponent. -/
def ofDigits? (numeral : Text) : Option Float :=
  let whole := numeral.takeWhile Char.isDigit
  let rest := numeral.dropWhile Char.isDigit
  let (fraction, rest) :=
    match rest with
    | '.' :: rest => (rest.takeWhile Char.isDigit, rest.dropWhile Char.isDigit)
    | rest => ([], rest)
  if whole.isEmpty && fraction.isEmpty then none
  else
    (exponent? rest).map fun exponent =>
      ofDecimal (Decimal.value (whole ++ fraction)) (exponent - fraction.length)

def infinityWords : List Text := ["inf", "infinity"]

def magnitude? (numeral : Text) : Option Float :=
  if infinityWords.contains (numeral.map Char.toLower) then
    some (Float.ofBits (UInt64.ofNat infinityBits))
  else if numeral.map Char.toLower = "nan" then some (0 / 0)
  else ofDigits? numeral

def ofNumeral? : Text → Option Float
  | '-' :: numeral => (magnitude? numeral).map (-·)
  | '+' :: numeral => magnitude? numeral
  | numeral => magnitude? numeral

end Binary64

end SchemaSeed
