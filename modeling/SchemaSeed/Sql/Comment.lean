import SchemaSeed.Sql.Pattern
import SchemaSeed.Sql.StringLiteral

/-! Removal of comments.  Read from left to right, a text is a sequence of pieces:
annotations, literals and quoted names, block comments, line comments, and single
characters.  Literals, quoted names and single characters are kept. -/

namespace SchemaSeed

namespace Sql

/-- The word COMMENT as the start of a word, blanks, and one string literal. -/
def annotationLength? (previous : Option Char) (text : Text) : Option Nat :=
  if isWordCharacter? previous then none
  else
    match (word? "comment" text).bind blanks? with
    | some rest =>
        (literalLength? rest).map fun length => text.length - rest.length + length
    | none => none

/-- Everything between two backticks. -/
def backtickedLength? : Text → Option Nat
  | [] => none
  | character :: rest =>
      if character = backtick then
        let content := rest.takeWhile (· != backtick)
        if content.length < rest.length then some (content.length + 2) else none
      else none

/-- The number of characters up to and including the nearest end of a block
comment. -/
def blockEnd? (passed : Nat) : Text → Option Nat
  | '*' :: '/' :: _ => some (passed + 2)
  | _ :: rest => blockEnd? (passed + 1) rest
  | [] => none

def blockLength? : Text → Option Nat
  | '/' :: '*' :: rest => blockEnd? 2 rest
  | _ => none

def isMargin (character : Char) : Bool :=
  character == ' ' || character == '\t'

def isLineEnd (character : Char) : Bool :=
  character == '\n' || character == '\r'

/-- Whether a line comment starts here. -/
def opensLine : Text → Bool
  | '#' :: _ => true
  | '-' :: '-' :: _ => true
  | _ => false

/-- A line comment reaches to the end of its line and takes the spaces and tabs
before it along. -/
def lineLength? (text : Text) : Option Nat :=
  let margin := text.takeWhile isMargin
  let after := text.dropWhile isMargin
  if opensLine after then some (margin.length + (after.takeWhile (!isLineEnd ·)).length)
  else none

/-- A piece at the start of a text: its length, and whether it is kept. -/
structure Piece where
  length : Nat
  kept : Bool
deriving Repr, DecidableEq

/-- The piece with which a text starts; the first kind that applies wins. -/
def pieceAt (previous : Option Char) (text : Text) : Piece :=
  match annotationLength? previous text with
  | some length => ⟨length, false⟩
  | none =>
  match (literalLength? text).or (backtickedLength? text) with
  | some length => ⟨length, true⟩
  | none =>
  match (blockLength? text).or (lineLength? text) with
  | some length => ⟨length, false⟩
  | none => ⟨1, true⟩

/-- Strips the rest of a text of which `remaining` characters still belong to a
piece that is kept or not. -/
def stripFrom (previous : Option Char) (remaining : Nat) (kept : Bool) : Text → Text
  | [] => []
  | character :: rest =>
      let piece : Piece :=
        match remaining with
        | _ + 1 => ⟨remaining, kept⟩
        | 0 => pieceAt previous (character :: rest)
      let stripped := stripFrom (some character) (piece.length - 1) piece.kept rest
      if piece.kept then character :: stripped else stripped

def stripComments (text : Text) : Text :=
  stripFrom none 0 true text

end Sql

end SchemaSeed
