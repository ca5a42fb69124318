import SchemaSeed.Text.Basic

/-! Decimal digits of every script.  A script encodes its ten digits one after
the other, so the table holds the ten zeros and a digit's value is its distance
from the zero before it. -/

namespace SchemaSeed

namespace Character

def digitZeros : List Nat := [
  48, 1632, 1776, 1984, 2406, 2534, 2662, 2790, 2918, 3046, 3174, 3302, 3430, 3558, 3664, 3792,
  3872, 4160, 4240, 6112, 6160, 6470, 6608, 6784, 6800, 6992, 7088, 7232, 7248, 42528, 43216,
  43264, 43472, 43504, 43600, 44016, 65296, 66720, 68912, 69734, 69872, 69942, 70096, 70384,
  70736, 70864, 71248, 71360, 71472, 71904, 72016, 72784, 73040, 73120, 92768, 92864, 93008,
  120782, 120792, 120802, 120812, 120822, 123200, 123632, 125264, 130032]

/-- The value of a decimal digit of any script. -/
def digitValue? (character : Char) : Option Nat :=
  (digitZeros.find? fun first => first ≤ character.toNat && character.toNat < first + 10).map
    fun first => character.toNat - first

def isDecimalDigit (character : Char) : Bool :=
  (digitValue? character).isSome

theorem digitValue?_lt {character : Char} {value : Nat}
    (found : digitValue? character = some value) : value < 10 := by
  simp only [digitValue?, Option.map_eq_some_iff] at found
  obtain ⟨first, located, rfl⟩ := found
  have inside := List.find?_some located
  simp only [Bool.and_eq_true, decide_eq_true_eq] at inside
  omega

end Character

end SchemaSeed
