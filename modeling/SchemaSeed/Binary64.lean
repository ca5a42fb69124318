import SchemaSeed.Decimal.Rounding

/-! Double-precision numbers taken apart and put together exactly: a finite one
is a sign, a natural significand and a power of two. -/

namespace SchemaSeed

structure Binary64 where
  negative : Bool
  significand : Nat
  exponent : Int
deriving Repr, DecidableEq

namespace Binary64

def leastExponent : Int := -1074

/-- The significand of a normal number lies in `[hiddenBit, 2 * hiddenBit)`. -/
def hiddenBit : Nat := Nat.pow 2 52

def infinityBits : Nat := 0x7FF0000000000000

/-- The parts of a finite number; none for the infinities and for what is not a
number. -/
def ofBits? (bits : Nat) : Option Binary64 :=
  let negative := decide (Nat.pow 2 63 ≤ bits)
  let exponentField := bits / hiddenBit % 2048
  let fraction := bits % hiddenBit
  if exponentField = 2047 then none
  else if exponentField = 0 then some ⟨negative, fraction, leastExponent⟩
  else some ⟨negative, hiddenBit + fraction, leastExponent + exponentField - 1⟩

def ofFloat? (number : Float) : Option Binary64 :=
  ofBits? number.toBits.toNat

/-- Numerator and denominator of the magnitude. -/
def ratio (number : Binary64) : Nat × Nat :=
  (number.significand * Nat.pow 2 number.exponent.toNat, Nat.pow 2 (-number.exponent).toNat)

/-- The bits of the double nearest to `numerator / denominator`, a tie to the even
significand, infinity beyond the largest finite one. -/
def nearestBits (numerator denominator : Nat) : Nat :=
  if numerator = 0 then 0
  else
    let estimate : Int := (Nat.log2 numerator : Int) - Nat.log2 denominator - 53
    let quotientAt (exponent : Int) (divide : Nat → Nat → Nat) : Nat :=
      divide (numerator * Nat.pow 2 (-exponent).toNat) (denominator * Nat.pow 2 exponent.toNat)
    let tight := if quotientAt estimate (· / ·) < 2 * hiddenBit then estimate else estimate + 1
    let exponent := max tight leastExponent
    let rounded := quotientAt exponent Decimal.roundDivide
    min (hiddenBit * (exponent - leastExponent).toNat + rounded) infinityBits

def nearest (numerator denominator : Nat) : Float :=
  Float.ofBits (UInt64.ofNat (nearestBits numerator denominator))

/-- The least natural number that rounds beyond the largest finite double: half a
unit in the last place above it. -/
def overflowThreshold : Nat := Nat.pow 2 1024 - Nat.pow 2 970

end Binary64

end SchemaSeed
