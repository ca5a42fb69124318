import SchemaSeed.Sql.Scan
import SchemaSeed.Text.Blank
import SchemaSeed.Text.Letter
import SchemaSeed.Text.Word

/-! The words and phrases by which declarations are recognised.  A matcher answers
with the text after its match; case is ignored throughout. -/

namespace SchemaSeed

namespace Sql

/-- Matches `letters`, given in lower case, at the start of a text. -/
def word? : (letters text : Text) → Option Text
  | [], text => some text
  | _ :: _, [] => none
  | letter :: letters, character :: text =>
      if Character.spells letter character then word? letters text else none

def blanks? : Text → Option Text
  | [] => none
  | character :: rest =>
      if Character.isBlank character then some (Text.skipBlanks rest) else none

/-- Two words with blanks between. -/
def phrase? (first second text : Text) : Option Text :=
  ((word? first text).bind blanks?).bind (word? second)

def tableMarker? (text : Text) : Option Text :=
  phrase? "create" "table" text

def primaryKey? (text : Text) : Option Text :=
  phrase? "primary" "key" text

def engineClause? (text : Text) : Option Text :=
  (word? "engine" text).bind fun rest =>
    match Text.skipBlanks rest with
    | '=' :: after => some after
    | _ => none

/-- The text after the first match anywhere. -/
def search? (matcher : Text → Option α) : Text → Option α
  | [] => none
  | character :: rest => (matcher (character :: rest)).or (search? matcher rest)

def occurs (matcher : Text → Option α) (text : Text) : Bool :=
  (search? matcher text).isSome

/-- How many characters stand before the first match. -/
def position? (matcher : Text → Option α) (passed : Nat) : Text → Option Nat
  | [] => none
  | character :: rest =>
      if (matcher (character :: rest)).isSome then some passed
      else position? matcher (passed + 1) rest

/-! Names stand between backticks and consist of word characters and hyphens. -/

def isNameCharacter (character : Char) : Bool :=
  Character.isWord character || character == '-'

/-- A quoted name at the start of a text, and the text after it. -/
def quotedName? : Text → Option (Text × Text)
  | [] => none
  | character :: rest =>
      if character = backtick then
        let name := rest.takeWhile isNameCharacter
        match name, rest.dropWhile isNameCharacter with
        | _ :: _, closing :: after => if closing = backtick then some (name, after) else none
        | _, _ => none
      else none

/-- The first quoted name anywhere. -/
def firstName? (text : Text) : Option Text :=
  (search? quotedName? text).map (·.1)

/-! A word of its own has no word character on either side. -/

def isWordCharacter? : Option Char → Bool
  | none => false
  | some character => Character.isWord character

def ownWord? (letters : Text) (previous : Option Char) (text : Text) : Option Text :=
  if isWordCharacter? previous then none
  else
    match word? letters text with
    | some rest => if isWordCharacter? rest.head? then none else some rest
    | none => none

def hasOwnWordAfter (choices : List Text) (previous : Option Char) : Text → Bool
  | [] => false
  | character :: rest =>
      (choices.any fun letters => (ownWord? letters previous (character :: rest)).isSome) ||
        hasOwnWordAfter choices (some character) rest

def keyWords : List Text := ["key", "index", "constraint"]

/-- Whether a text speaks of a key, an index or a constraint. -/
def mentionsKey (text : Text) : Bool :=
  hasOwnWordAfter keyWords none text

def mentionsTimestamp (text : Text) : Bool :=
  occurs (word? "timestamp") text

def mentionsUnsigned (text : Text) : Bool :=
  occurs (word? "unsigned") text

end Sql

end SchemaSeed
