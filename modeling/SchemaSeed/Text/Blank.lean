import SchemaSeed.Text.Basic

/-! Blanks, and the two ways in which text forgets them: `collapse` keeps one
space between words, `strip` drops the blanks at both ends. -/

namespace SchemaSeed

namespace Character

def isBlank (character : Char) : Bool :=
  let code := character.toNat
  (9 ≤ code && code ≤ 13) || (28 ≤ code && code ≤ 32) || code == 0x85 || code == 0xA0 ||
    code == 0x1680 || (0x2000 ≤ code && code ≤ 0x200A) || code == 0x2028 || code == 0x2029 ||
    code == 0x202F || code == 0x205F || code == 0x3000

end Character

namespace Text

def skipBlanks (text : Text) : Text :=
  text.dropWhile Character.isBlank

def strip (text : Text) : Text :=
  text.trim Character.isBlank

/-- The words collected so far, last first, and the word being read, last
character first. -/
def wordsOnto (words : List Text) (current : Text) : Text → List Text
  | [] => (if current.isEmpty then words else current.reverse :: words).reverse
  | character :: rest =>
      if Character.isBlank character then
        wordsOnto (if current.isEmpty then words else current.reverse :: words) [] rest
      else
        wordsOnto words (character :: current) rest

/-- The maximal runs of characters that are not blank. -/
def words (text : Text) : List Text :=
  wordsOnto [] [] text

def collapse (text : Text) : Text :=
  join " " text.words

end Text

end SchemaSeed
