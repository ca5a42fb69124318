import SchemaSeed.Datum

/-! Values as one line of JSON in ASCII: everything outside it, and every control
character, is written as an escape, in two halves beyond the first plane.  A value
that JSON has no form for is written as the string of its text. -/

namespace SchemaSeed

namespace Json

def unit (code : Nat) : Text :=
  '\\' :: 'u' :: Character.hexadecimal 4 code

def escaped (character : Char) : Text :=
  let code := character.toNat
  if character = '"' then ['\\', '"']
  else if character = '\\' then ['\\', '\\']
  else if character = '\n' then ['\\', 'n']
  else if character = '\r' then ['\\', 'r']
  else if character = '\t' then ['\\', 't']
  else if code = 8 then ['\\', 'b']
  else if code = 12 then ['\\', 'f']
  else if 32 ≤ code ∧ code < 127 then [character]
  else if code < 0x10000 then unit code
  else unit (0xD800 + (code - 0x10000) / 0x400) ++ unit (0xDC00 + (code - 0x10000) % 0x400)

def string (text : Text) : Text :=
  '"' :: text.flatMap escaped ++ ['"']

def real (value : Float) : Text :=
  match Binary64.ofFloat? value with
  | none => if value.isNaN then "NaN" else if value < 0 then "-Infinity" else "Infinity"
  | some _ => Decimal.ofFloat value

mutual
def render : Datum → Text
  | .null => "null"
  | .truth value => if value then "true" else "false"
  | .integer value => Decimal.integer value
  | .real value => real value
  | .text value => string value
  | .list items => "[" ++ Text.join ", " (renderItems items) ++ "]"
  | .object fields => "\x7b" ++ Text.join ", " (renderFields fields) ++ "\x7d"
  | .thing _ plain _ => string plain

def renderItems : List Datum → List Text
  | [] => []
  | item :: rest => render item :: renderItems rest

def renderFields : List (Text × Datum) → List Text
  | [] => []
  | (name, value) :: rest => (string name ++ ": " ++ render value) :: renderFields rest
end

end Json

end SchemaSeed
