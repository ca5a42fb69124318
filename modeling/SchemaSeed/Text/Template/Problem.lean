import SchemaSeed.Text.Quoted
import SchemaSeed.Decimal.Natural

/-! What can be wrong with a message template and its arguments. -/

namespace SchemaSeed

namespace Template

inductive Problem
  | tooFewArguments
  | unusedArguments
  | incomplete
  | incompleteField
  | needsFields
  | unknownField (name : Text)
  | unknownConversion (letter : Char) (position : Nat)
  | widthTooBig
  | precisionTooBig
  | takenWidthTooBig
  | takenPrecisionTooBig
  | takenAmountNotWhole
  | needsNumber (letter : Char) (found : Text)
  | needsInteger (letter : Char) (found : Text)
  | needsReal (found : Text)
  | tooLargeForReal
  | infinite
  | notANumber
  | numberTooLong
  | needsPosition
  | needsCharacter
  | noSuchCharacter
deriving Repr, DecidableEq

namespace Problem

/-- The name under which the problem is reported. -/
def label : Problem → Text
  | .incomplete | .incompleteField | .unknownConversion .. | .widthTooBig | .precisionTooBig
  | .notANumber | .numberTooLong => "ValueError"
  | .unknownField _ => "KeyError"
  | .takenWidthTooBig | .takenPrecisionTooBig | .tooLargeForReal | .infinite
  | .noSuchCharacter => "OverflowError"
  | _ => "TypeError"

/-- A letter that cannot be shown in ASCII stands as a question mark. -/
def shownLetter (letter : Char) : Char :=
  if 31 ≤ letter.toNat ∧ letter.toNat ≤ 126 then letter else '?'

def message : Problem → Text
  | .tooFewArguments => "not enough arguments for format string"
  | .unusedArguments => "not all arguments converted during string formatting"
  | .incomplete => "incomplete format"
  | .incompleteField => "incomplete format key"
  | .needsFields => "format requires a mapping"
  | .unknownField name => name.quoted
  | .unknownConversion letter position =>
      "unsupported format character '" ++ [shownLetter letter] ++ "' (0x" ++
        Nat.toDigits 16 letter.toNat ++ ") at index " ++ Decimal.natural position
  | .widthTooBig => "width too big"
  | .precisionTooBig => "precision too big"
  | .takenWidthTooBig => "Python int too large to convert to C ssize_t"
  | .takenPrecisionTooBig => "Python int too large to convert to C int"
  | .takenAmountNotWhole => "* wants int"
  | .needsNumber letter found =>
      "%" ++ [letter] ++ " format: a real number is required, not " ++ found
  | .needsInteger letter found =>
      "%" ++ [letter] ++ " format: an integer is required, not " ++ found
  | .needsReal found => "must be real number, not " ++ found
  | .tooLargeForReal => "int too large to convert to float"
  | .infinite => "cannot convert float infinity to integer"
  | .notANumber => "cannot convert float NaN to integer"
  | .numberTooLong => Decimal.limitText ++ Decimal.limitAdvice
  | .needsPosition => "list indices must be integers or slices, not str"
  | .needsCharacter => "%c requires int or char"
  | .noSuchCharacter => "%c arg not in range(0x110000)"

end Problem

end Template

end SchemaSeed
