import SchemaSeed.Column
import SchemaSeed.Instant
import SchemaSeed.Policy
import SchemaSeed.Random.Source

/-! Values for columns, written as SQL literals ready for a list of values.  Random
mode draws from a source; fixed mode writes placeholders and greatest values,
except for floating-point numbers and enumerations, which are drawn in both. -/

namespace SchemaSeed

namespace Literal

def quote (content : Text) : Text :=
  '"' :: content ++ ['"']

/-- The escape of a character inside a string literal.  These are the escapes that the
client library of the database documents for its `escape_string`: zero, line feed, carriage
return, the end of a file (26), both quotes and the backslash. -/
def escape (character : Char) : Text :=
  if character = Char.ofNat 0 then ['\\', '0']
  else if character = '\n' then ['\\', 'n']
  else if character = '\r' then ['\\', 'r']
  else if character = Char.ofNat 26 then ['\\', 'Z']
  else if character = '"' then ['\\', '"']
  else if character = '\'' then ['\\', '\'']
  else if character = '\\' then ['\\', '\\']
  else [character]

def escapeAll (content : Text) : Text :=
  content.flatMap escape

/-- Angle brackets would corrupt markup and are replaced. -/
def replaceMarkup (character : Char) : Char :=
  if character = '<' ∨ character = '>' then 'Z' else character

/-- Lengths beyond this are no sizes of anything. -/
def lengthLimit : Nat := Nat.pow 2 63

/-- So many characters are taken to find room, also escaped and collected one by one.  No
memory has room for more. -/
def roomLimit : Nat := Nat.pow 2 59

/-- So many copies of a character. -/
def copies (count : Nat) (character : Char) : Except Fault Text :=
  if lengthLimit ≤ count then .error .lengthTooLarge
  else if roomLimit < count then .error .outOfMemory
  else .ok (List.replicate count character)

/-! Ranges of the whole numbers.  The signed range of the 32-bit category is skewed
towards negative values. -/

structure IntegerRange where
  least : Int
  greatest : Int
deriving Repr, DecidableEq

namespace IntegerRange

def tiny (unsigned : Bool) : IntegerRange :=
  if unsigned then ⟨0, 255⟩ else ⟨-128, 127⟩

def small (unsigned : Bool) : IntegerRange :=
  if unsigned then ⟨0, 65535⟩ else ⟨-32768, 32767⟩

def medium (unsigned : Bool) : IntegerRange :=
  if unsigned then ⟨0, 16777215⟩ else ⟨-8388608, 8388607⟩

def standard (unsigned : Bool) : IntegerRange :=
  if unsigned then ⟨0, 2147483647⟩ else ⟨-9999999, 1000000⟩

end IntegerRange

/-- One digit less than the width of the greatest unsigned 64-bit number. -/
def bigDigits : Nat := 19

def bigFixed : Text := "18446744073708551616"

/-- Digits of a decimal number that are set aside for its fraction. -/
def fractionDigits : Nat := 3

def decimalWidth (length : Nat) : Nat :=
  max (length - fractionDigits) 1

def singleScale : Float := 1000000

end Literal

/-- All that the literals of one run depend on. -/
structure Generator (State : Type u) where
  policy : Policy
  instant : Instant
  source : RandomSource State

namespace Generator

open Literal

variable {State : Type u} (generator : Generator State)

/-- That many characters, one draw each.  Codes of surrogates are codes of no character, and
the character zero stands for them; what is said of characters that were drawn is said of
policies whose range is free of them. -/
def characters : Nat → State → Text × State
  | 0, state => ([], state)
  | count + 1, state =>
      let (code, state) :=
        generator.source.between generator.policy.low generator.policy.high state
      let (rest, state) := characters count state
      (replaceMarkup (Char.ofNat code.toNat) :: rest, state)

/-- That many decimal digits, one draw each. -/
def digits : Nat → State → Text × State
  | 0, state => ([], state)
  | count + 1, state =>
      let (digit, state) := generator.source.between 0 9 state
      let (rest, state) := digits count state
      (Decimal.integer digit ++ rest, state)

/-- Characters are drawn until all of them are there, or until there is no more room. -/
def character (length : Nat) (state : State) : Except Fault Text × State :=
  if generator.policy.randomized then
    let (drawn, state) := generator.characters (min length roomLimit) state
    if roomLimit < length then (.error .outOfMemory, state)
    else (.ok (quote (escapeAll drawn)), state)
  else ((copies length 'X').map quote, state)

def integer (range : IntegerRange) (state : State) : Text × State :=
  if generator.policy.randomized then
    let (value, state) := generator.source.between range.least range.greatest state
    (Decimal.integer value, state)
  else (Decimal.integer range.greatest, state)

def bigInteger (state : State) : Text × State :=
  if generator.policy.randomized then generator.digits bigDigits state
  else (bigFixed, state)

/-- Whole part and fraction are drawn apart, and only then is it seen whether the
whole part can be written. -/
def decimal (length : Nat) (state : State) : Except Fault Text × State :=
  let width := decimalWidth length
  if generator.policy.randomized then
    let (whole, state) := generator.source.between 0 (Nat.pow 10 width - 1) state
    let (fraction, state) := generator.source.between 0 99 state
    if Decimal.isTooLong whole then (.error .numberTooLong, state)
    else (.ok (quote (Decimal.integer whole ++ "." ++ Decimal.integer fraction)), state)
  else ((copies width '9').map fun whole => quote (whole ++ ".50"), state)

def single (state : State) : Text × State :=
  let (fraction, state) := generator.source.fraction state
  (Decimal.ofFloat (fraction * singleScale), state)

/-- The fraction is drawn before it is seen whether the scale fits a double. -/
def double (length : Nat) (state : State) : Except Fault Text × State :=
  let scale := Nat.pow 10 length - 1
  let (fraction, state) := generator.source.fraction state
  if Binary64.overflowThreshold ≤ scale then (.error .numberTooLarge, state)
  else (.ok (Decimal.ofFloat (fraction * Binary64.nearest scale 1)), state)

def enumeration (members : List Text) (state : State) : Except Fault Text × State :=
  let (chosen, state) := generator.source.choose members state
  (chosen.map quote, state)

/-- One literal for a column of that category. -/
def literal (column : Column) (category : Category) (state : State) :
    Except Fault Text × State :=
  let length := column.length.getD 0
  let certain : Text × State → Except Fault Text × State := fun (text, state) => (.ok text, state)
  match category with
  | .character => generator.character (if length = 0 then Column.defaultLength else length) state
  | .int8 => certain (generator.integer (.tiny column.unsigned) state)
  | .int16 => certain (generator.integer (.small column.unsigned) state)
  | .int24 => certain (generator.integer (.medium column.unsigned) state)
  | .int32 => certain (generator.integer (.standard column.unsigned) state)
  | .int64 => certain (generator.bigInteger state)
  | .decimal => generator.decimal length state
  | .float32 => certain (generator.single state)
  | .float64 => generator.double length state
  | .date => (.ok (quote generator.instant.date), state)
  | .datetime => (.ok (quote generator.instant.dateTime), state)
  | .time => (.ok (quote generator.instant.time), state)
  | .enumeration => generator.enumeration column.members state

/-- One literal for a column, none if its type is not supported. -/
def generate (column : Column) (state : State) : Except Fault (Option Text) × State :=
  match column.category with
  | none => (.ok none, state)
  | some category =>
      let (written, state) := generator.literal column category state
      (written.map some, state)

end Generator

end SchemaSeed
