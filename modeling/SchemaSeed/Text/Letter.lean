import SchemaSeed.Text.Basic

/-! Case.  A pattern names its letters in lower case and accepts every character
that folds to one of them; an upper-case spelling may be longer than the
character it replaces. -/

namespace SchemaSeed

namespace Character

/-- Whether `character` is a form of the lower-case letter `letter`.  Beyond the
ASCII pair, two letters i, the long s and the kelvin sign fold to ASCII. -/
def spells (letter character : Char) : Bool :=
  character.toLower == letter ||
    (letter == 'i' && (character.toNat == 0x130 || character.toNat == 0x131)) ||
    (letter == 's' && character.toNat == 0x17F) ||
    (letter == 'k' && character.toNat == 0x212A)

/-- The upper-case spelling of a character wherever it holds an ASCII letter;
every other character stands for itself. -/
def upper (character : Char) : Text :=
  match character.toNat with
  | 0xDF => ['S', 'S']
  | 0x131 => ['I']
  | 0x149 => [Char.ofNat 0x2BC, 'N']
  | 0x17F => ['S']
  | 0x1F0 => ['J', Char.ofNat 0x30C]
  | 0x1E96 => ['H', Char.ofNat 0x331]
  | 0x1E97 => ['T', Char.ofNat 0x308]
  | 0x1E98 => ['W', Char.ofNat 0x30A]
  | 0x1E99 => ['Y', Char.ofNat 0x30A]
  | 0x1E9A => ['A', Char.ofNat 0x2BE]
  | 0xFB00 => ['F', 'F']
  | 0xFB01 => ['F', 'I']
  | 0xFB02 => ['F', 'L']
  | 0xFB03 => ['F', 'F', 'I']
  | 0xFB04 => ['F', 'F', 'L']
  | 0xFB05 => ['S', 'T']
  | 0xFB06 => ['S', 'T']
  | _ => [character.toUpper]

end Character

namespace Text

def upper (text : Text) : Text :=
  text.flatMap Character.upper

@[simp] theorem upper_append (left right : Text) :
    upper (left ++ right) = upper left ++ upper right := by
  simp [upper]

end Text

end SchemaSeed
