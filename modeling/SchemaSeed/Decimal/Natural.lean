import SchemaSeed.Text.Digit

/-! Whole numbers as decimal text, and the longest numeral that is converted in
either direction. -/

namespace SchemaSeed

namespace Decimal

def digitLimit : Nat := 4300

def natural (number : Nat) : Text :=
  Nat.toDigits 10 number

def integer (number : Int) : Text :=
  if number < 0 then '-' :: natural number.natAbs else natural number.natAbs

/-- Whether the numeral of a number has more digits than are converted. -/
def isTooLong (number : Int) : Bool :=
  Nat.pow 10 digitLimit ≤ number.natAbs

def limitText : Text :=
  "Exceeds the limit (" ++ natural digitLimit ++ " digits) for integer string conversion"

def limitAdvice : Text :=
  "; use sys.set_int_max_str_digits() to increase the limit"

/-- The number that decimal digits of any script denote, most significant digit
first. -/
def value (digits : Text) : Nat :=
  digits.foldl (fun total digit => 10 * total + (Character.digitValue? digit).getD 0) 0

theorem value_append_singleton (digits : Text) (digit : Char) :
    value (digits ++ [digit]) =
      10 * value digits + (Character.digitValue? digit).getD 0 := by
  simp [value]

/-- Groups of three digits, counted from the right, with commas between. -/
def groupedOnto (collected : Text) (reversed : Text) : Text :=
  match reversed with
  | ones :: tens :: hundreds :: more :: rest =>
      groupedOnto (',' :: hundreds :: tens :: ones :: collected) (more :: rest)
  | short => short.reverse ++ collected

def grouped (number : Int) : Text :=
  let digits := groupedOnto [] (natural number.natAbs).reverse
  if number < 0 then '-' :: digits else digits

example : grouped 1234567 = ['1', ',', '2', '3', '4', ',', '5', '6', '7'] := by decide

end Decimal

end SchemaSeed
