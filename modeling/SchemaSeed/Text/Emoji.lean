import SchemaSeed.Text.Emoji.Names
import SchemaSeed.Text.LowerCase

/-! Pictographs by name.  A name stands between colons, without blanks, and may ask for
the plain or the colored form.  What names none stays as it is. -/

namespace SchemaSeed

namespace Emoji

/-- The forms that may be asked for, each with its selector. -/
def forms : List (Text × Text) := [
  ("-emoji", [Char.ofNat 0xFE0F]), ("-text", [Char.ofNat 0xFE0E])]

/-- What is left of `text` once `back` is taken off its end, if it ends so. -/
def before? (back text : Text) : Option Text :=
  (Text.after? back.reverse text.reverse).map List.reverse

/-- A name and the selector of the form it asks for. -/
def split (code : Text) : Text × Text :=
  (forms.findSome? fun (suffix, selector) =>
    (before? suffix code).map fun name => (name, selector)).getD (code, [])

/-- What a name between colons stands for. -/
def written (code : Text) : Text :=
  let (name, selector) := split code
  match named? name.lower with
  | some pictograph => pictograph ++ selector
  | none => ':' :: code ++ [':']

/-- `code` is what has been read since a colon, last character first. -/
def replaceFrom (code : Option Text) : Text → Text
  | [] =>
      match code with
      | some code => ':' :: code.reverse
      | none => []
  | character :: rest =>
      match code with
      | none =>
          if character = ':' then replaceFrom (some []) rest
          else character :: replaceFrom none rest
      | some code =>
          if character = ':' then written code.reverse ++ replaceFrom none rest
          else if Character.isBlank character then
            ':' :: code.reverse ++ character :: replaceFrom none rest
          else replaceFrom (some (character :: code)) rest

def replace (text : Text) : Text :=
  replaceFrom none text

end Emoji

end SchemaSeed
