import SchemaSeed.Text.Basic

/-! Inclusive ranges of code points, the form in which the character classes of
the standard are tabulated. -/

namespace SchemaSeed

abbrev CodeRange := Nat × Nat

namespace CodeRange

def contains (range : CodeRange) (character : Char) : Bool :=
  range.1 ≤ character.toNat && character.toNat ≤ range.2

end CodeRange

end SchemaSeed
