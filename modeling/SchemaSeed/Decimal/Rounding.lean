/-! Division of natural numbers rounded to the nearest whole number, a tie to the
even one. -/

namespace SchemaSeed

namespace Decimal

def roundDivide (numerator denominator : Nat) : Nat :=
  let quotient := numerator / denominator
  let remainder := numerator % denominator
  if denominator < 2 * remainder then quotient + 1
  else if 2 * remainder = denominator ∧ quotient % 2 = 1 then quotient + 1
  else quotient

end Decimal

end SchemaSeed
