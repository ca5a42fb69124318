import SchemaSeed.Text.Basic

/-! Text for a terminal.  A control sequence is an escape character, an opening
bracket, parameters and a final letter; where nobody watches, none is printed. -/

namespace SchemaSeed

namespace Terminal

def escape : Char := Char.ofNat 27

def isParameter (character : Char) : Bool :=
  character.isDigit || character == ';' || character == '?'

/-- The text after the control sequence with which a text starts. -/
def afterSequence? : Text → Option Text
  | first :: '[' :: rest =>
      if first = escape then
        match rest.dropWhile isParameter with
        | final :: after => if final.isAlpha then some after else none
        | [] => none
      else none
  | _ => none

/-- How many characters a control sequence takes at the start of a text. -/
def sequenceLength (text : Text) : Nat :=
  match afterSequence? text with
  | some after => text.length - after.length
  | none => 0

/-- The text without control sequences, the first `skipped` characters being part of
one. -/
def plainFrom (skipped : Nat) : Text → Text
  | [] => []
  | character :: rest =>
      match skipped with
      | remaining + 1 => plainFrom remaining rest
      | 0 =>
          match sequenceLength (character :: rest) with
          | remaining + 1 => plainFrom remaining rest
          | 0 => character :: plainFrom 0 rest

def plain (text : Text) : Text :=
  plainFrom 0 text

end Terminal

end SchemaSeed
