import SchemaSeed.Validation

/-! How many rows to generate and how to fill them. -/

namespace SchemaSeed

/-- The largest code a character can have. -/
def lastCharacterCode : Nat := 0x10FFFF

/-- In fixed mode, columns are filled with placeholders and greatest values instead
of random ones.  Characters are drawn with codes from `low` to `high`. -/
structure Policy where
  rowCount : Nat
  randomized : Bool
  low : Nat
  high : Nat
  rowCount_pos : 0 < rowCount
  low_le_high : low ≤ high
  high_le_last : high ≤ lastCharacterCode
deriving Repr, DecidableEq

namespace Policy

def default : Policy where
  rowCount := 1
  randomized := true
  low := 33
  high := 126
  rowCount_pos := by decide
  low_le_high := by decide
  high_le_last := by decide

def mode (policy : Policy) : Text :=
  if policy.randomized then "random" else "fixed"

/-- The values of a policy before it is known whether they fit together. -/
structure Draft where
  rowCount : Int
  randomized : Bool
  low : Int
  high : Int

namespace Draft

def fields (draft : Draft) : List (Text × Datum) := [
  ("row_count", .integer draft.rowCount),
  ("randomized", .truth draft.randomized),
  ("char_code_low", .integer draft.low),
  ("char_code_high", .integer draft.high)]

def rangeMessage (draft : Draft) : Text :=
  "Value error, char_code_low (" ++ Decimal.integer draft.low ++
    ") must not exceed char_code_high (" ++ Decimal.integer draft.high ++ ")"

end Draft

def modelName : Text := "GenerationPolicy"

/-- The order of the two character codes is looked at only when every field is
valid by itself. -/
def ofFields (fields : List (Text × Datum)) : Checked Policy :=
  let code := Validation.integerBetween 0 lastCharacterCode
  let draft : Checked Draft :=
    Draft.mk <$>
      Validation.defaulted "row_count" (default.rowCount : Int)
        (Validation.integerFrom 1) fields <*>
      Validation.defaulted "randomized" default.randomized Validation.truth fields <*>
      Validation.defaulted "char_code_low" (default.low : Int) code fields <*>
      Validation.defaulted "char_code_high" (default.high : Int) code fields
  match draft with
  | .invalid issues => .invalid issues
  | .valid draft =>
      let rowCount := draft.rowCount.toNat
      let low := draft.low.toNat
      let high := draft.high.toNat
      if fits : 0 < rowCount ∧ low ≤ high ∧ high ≤ lastCharacterCode then
        .valid ⟨rowCount, draft.randomized, low, high, fits.1, fits.2.1, fits.2.2⟩
      else
        .invalid [⟨[], "value_error", draft.rangeMessage, .object fields⟩]

end Policy

end SchemaSeed
