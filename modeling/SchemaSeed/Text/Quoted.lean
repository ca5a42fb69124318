import SchemaSeed.Text.Printable

/-! The form in which a message quotes a text: between single quotes, or double
ones when the text holds a single quote and no double one, with whatever cannot
be shown written as an escape. -/

namespace SchemaSeed

namespace Character

/-- The low `digits` hexadecimal digits of a number, in lower case. -/
def hexadecimal (digits number : Nat) : Text :=
  let shown := Nat.toDigits 16 number
  List.replicate (digits - shown.length) '0' ++ shown

def escaped (quote character : Char) : Text :=
  if character = quote ∨ character = '\\' then ['\\', character]
  else if character = '\n' then ['\\', 'n']
  else if character = '\r' then ['\\', 'r']
  else if character = '\t' then ['\\', 't']
  else if isPrintable character then [character]
  else if character.toNat < 0x100 then '\\' :: 'x' :: hexadecimal 2 character.toNat
  else if character.toNat < 0x10000 then '\\' :: 'u' :: hexadecimal 4 character.toNat
  else '\\' :: 'U' :: hexadecimal 8 character.toNat

end Character

namespace Text

def quoteFor (text : Text) : Char :=
  if text.elem '\'' && !text.elem '"' then '"' else '\''

def quoted (text : Text) : Text :=
  let quote := text.quoteFor
  quote :: text.flatMap (Character.escaped quote) ++ [quote]

end Text

end SchemaSeed
