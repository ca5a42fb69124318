import SchemaSeed.Text.Expression.Token
import SchemaSeed.Text.Quoted

/-! What may stand between quotes: the escapes of a text and of bytes, and the fields of
a text that has expressions in braces. -/

namespace SchemaSeed

namespace Expression

/-! Escapes.  They are looked for where all characters are ASCII, and positions count from
there. -/

/-- A text with its characters beyond ASCII as escapes.  A backslash that has none of
ASCII after it is one, too. -/
def inAscii : Text → Text
  | '\\' :: next :: rest =>
      if 128 ≤ next.toNat then
        "\\u005c" ++ '\\' :: 'U' :: Character.hexadecimal 8 next.toNat ++ inAscii rest
      else '\\' :: next :: inAscii rest
  | ['\\'] => "\\u005c"
  | character :: rest =>
      if 128 ≤ character.toNat then
        '\\' :: 'U' :: Character.hexadecimal 8 character.toNat ++ inAscii rest
      else character :: inAscii rest
  | [] => []

/-- The number of hexadecimal digits that an escape has, and why it is refused with fewer. -/
def escapeDigits? (letter : Char) : Option (Nat × Text) :=
  match letter with
  | 'x' => some (2, "truncated \\xXX escape")
  | 'u' => some (4, "truncated \\uXXXX escape")
  | 'U' => some (8, "truncated \\UXXXXXXXX escape")
  | _ => none

def lastCharacter : Nat := 0x10FFFF

/-- Whether a name may be that of a character. -/
def isCharacterName (name : Text) : Bool :=
  2 ≤ name.length && name.all fun character =>
    character.isAlphanum || character == ' ' || character == '-'

/-- The problem of a character escape by name, after its letter. -/
def namedEscapeProblem? (position : Nat) (text : Text) : Option TextProblem :=
  let malformed : Text := "malformed \\N character escape"
  match text with
  | '\x7b' :: rest =>
      let name := rest.takeWhile (· != '\x7d')
      let stop := position + 2 + name.length
      if name.length = rest.length then some (.badEscape position stop malformed)
      else if name.isEmpty then some (.badEscape position stop malformed)
      else if isCharacterName name then none
      else some (.badEscape position (stop + 1) "unknown Unicode character name")
  | _ => some (.badEscape position (position + 1) malformed)

/-- The first escape of an ASCII text that cannot be read. -/
def escapeProblem? (position : Nat) : Text → Option TextProblem
  | '\\' :: letter :: rest =>
      if letter = 'N' then
        match namedEscapeProblem? position rest with
        | some problem => some problem
        | none => escapeProblem? (position + 2) rest
      else
        match escapeDigits? letter with
        | none => escapeProblem? (position + 2) rest
        | some (count, reason) =>
            let digits := (rest.take count).takeWhile isHexadecimal
            let stop := position + 1 + digits.length
            if digits.length < count then some (.badEscape position stop reason)
            else if lastCharacter < valueIn 16 digits then
              some (.badEscape position stop "illegal Unicode character")
            else escapeProblem? (position + 2) rest
  | _ :: rest => escapeProblem? (position + 1) rest
  | [] => none

/-- The first escape of bytes that cannot be read. -/
def byteEscapeProblem? (position : Nat) : Text → Option TextProblem
  | '\\' :: 'x' :: rest =>
      if ((rest.take 2).takeWhile isHexadecimal).length < 2 then some (.badByteEscape position)
      else byteEscapeProblem? (position + 2) rest
  | '\\' :: _ :: rest => byteEscapeProblem? (position + 2) rest
  | _ :: rest => byteEscapeProblem? (position + 1) rest
  | [] => none

def checkEscapes (isRaw : Bool) (text : Text) : Except Problem Unit :=
  match if isRaw then none else escapeProblem? 0 (inAscii text) with
  | some problem => .error (.badText problem)
  | none => .ok ()

/-! Fields.  A field is an expression in braces, with a conversion and a format, both of
which may be left out.  The format may hold fields itself, but not those of these. -/

/-- The literal text before the next field or closing brace, last character first, the
text after it, and whether it ends in a brace that is written twice. -/
def untilBrace (isRaw isOutermost : Bool) (passed : Text) :
    (fuel : Nat) → Text → Except Problem (Text × Text × Bool)
  | 0, text => .ok (passed, text, false)
  | _, [] => .ok (passed, [], false)
  | fuel + 1, character :: rest =>
      if character = '\\' ∧ !isRaw ∧ !rest.isEmpty then
        match rest with
        | 'N' :: '\x7b' :: more =>
            let name := more.takeWhile (· != '\x7d')
            let closed := more.drop name.length
            untilBrace isRaw isOutermost
              ((closed.take 1).reverse ++ name.reverse ++ '\x7b' :: 'N' :: '\\' :: passed)
              fuel (closed.drop 1)
        | 'N' :: other :: more =>
            untilBrace isRaw isOutermost (other :: 'N' :: '\\' :: passed) fuel more
        | next :: more =>
            if next = '\x7b' ∨ next = '\x7d' then
              untilBrace isRaw isOutermost ('\\' :: passed) fuel (next :: more)
            else untilBrace isRaw isOutermost (next :: '\\' :: passed) fuel more
        | [] => .ok ('\\' :: passed, [], false)
      else if character = '\x7b' ∨ character = '\x7d' then
        if isOutermost ∧ rest.head? = some character then
          .ok (character :: passed, rest.drop 1, true)
        else if isOutermost ∧ character = '\x7d' then .error (.badField .singleBrace)
        else .ok (passed, character :: rest, false)
      else untilBrace isRaw isOutermost (character :: passed) fuel rest

/-- What has been read of the expression of a field, last character first; the quotes of
a text that is open, and the brackets that are open. -/
structure FieldScan where
  read : Text := []
  quotes : Text := []
  opened : List Char := []

/-- The expression of a field and the text after it. -/
def FieldScan.run (scan : FieldScan) : (fuel : Nat) → Text → Except Problem (FieldScan × Text)
  | 0, text => .ok (scan, text)
  | _, [] => .ok (scan, [])
  | fuel + 1, character :: rest =>
      let add (count : Nat) : FieldScan × Text :=
        let text := character :: rest
        ({ scan with read := (text.take count).reverse ++ scan.read }, text.drop count)
      if character = '\\' then .error (.badField .backslash)
      else if !scan.quotes.isEmpty then
        if Text.startsWith (character :: rest) scan.quotes then
          let (scan, after) := add scan.quotes.length
          { scan with quotes := [] }.run fuel after
        else
          let (scan, after) := add 1
          scan.run fuel after
      else if isQuote character then
        let quotes := if Text.startsWith rest [character, character] then
            List.replicate 3 character else [character]
        let (scan, after) := add quotes.length
        { scan with quotes := quotes }.run fuel after
      else if isOpening character then
        if depthLimit ≤ scan.opened.length then .error (.badField .tooManyBrackets)
        else
          let (scan, after) := add 1
          { scan with opened := character :: scan.opened }.run fuel after
      else if character = '#' then .error (.badField .comment)
      else if scan.opened.isEmpty ∧ character ∈ "!:\x7d=><".toList then
        if character ∈ "!=<>".toList ∧ rest.head? = some '=' then
          let (scan, after) := add 2
          scan.run fuel after
        else if character = '<' ∨ character = '>' then
          let (scan, after) := add 1
          scan.run fuel after
        else .ok (scan, character :: rest)
      else
        match opening? character with
        | none =>
            let (scan, after) := add 1
            scan.run fuel after
        | some opening =>
            match scan.opened with
            | [] => .error (.badField (.unmatched character))
            | found :: outer =>
                if found = opening then
                  let (scan, after) := add 1
                  { scan with opened := outer }.run fuel after
                else .error (.badField (.mismatched character found))

/-- The text after the expression of a field, which is read on its own. -/
def afterExpression (readField : Text → Except Problem Unit) (text : Text) :
    Except Problem Text := do
  let (scan, after) ← FieldScan.run {} text.length text
  if !scan.quotes.isEmpty then throw (.badField .unterminatedText)
  match scan.opened with
  | bracket :: _ => throw (.badField (.unmatched bracket))
  | [] =>
      match after with
      | [] => throw (.badField .unclosed)
      | mark :: _ =>
          let isBlank (character : Char) : Bool := character ∈ [' ', '\t', '\n', '\x0c', '\r']
          if scan.read.all isBlank then
            throw (.badField (if mark = '\x7d' then .empty else .missingBefore mark))
          readField scan.read.reverse
          return after

/-- The text after the conversion of a field, if it has one. -/
def afterConversion (text : Text) : Except Problem Text :=
  match text with
  | ['!'] => .error (.badField .unclosed)
  | '!' :: letter :: rest =>
      if letter ∈ ['s', 'r', 'a'] then .ok rest else .error (.badField .badConversion)
  | text => .ok text

def isLineSpace (character : Char) : Bool :=
  character ∈ [' ', '\t', '\n', '\x0b', '\x0c', '\r']

/-- The most formats that may be open at once. -/
def formatLimit : Nat := 2

mutual
/-- Literal text and fields up to the end, or within a format up to the brace that closes
its field.  `level` counts the formats that are open. -/
def afterParts (readField : Text → Except Problem Unit) (isRaw : Bool) (level : Nat) :
    (fuel : Nat) → Text → Except Problem Text
  | 0, text => .ok text
  | fuel + 1, text => do
      let (literal, after, doubled) ← untilBrace isRaw (level == 0) [] text.length text
      checkEscapes isRaw literal.reverse
      if doubled then afterParts readField isRaw level fuel after
      else
        match after with
        | '\x7b' :: rest =>
            let after ← afterField readField isRaw level fuel rest
            afterParts readField isRaw level fuel after
        | after =>
            if level ≠ 0 ∧ after.isEmpty then throw (.badField .unclosed)
            return after

/-- The text after a field whose opening brace has just been read. -/
def afterField (readField : Text → Except Problem Unit) (isRaw : Bool) (level : Nat) :
    (fuel : Nat) → Text → Except Problem Text
  | 0, text => .ok text
  | fuel + 1, text => do
      if formatLimit ≤ level then throw (.badField .tooDeep)
      let after ← afterExpression readField text
      let after := match after with
        | '=' :: rest => rest.dropWhile isLineSpace
        | after => after
      if after.isEmpty then throw (.badField .unclosed)
      let after ← afterConversion after
      let after ← match after with
        | [':'] => throw (.badField .unclosed)
        | ':' :: rest => afterParts readField isRaw (level + 1) fuel rest
        | after => pure after
      match after with
      | '\x7d' :: rest => return rest
      | _ => throw (.badField .unclosed)
end

/-- Checks the content of a text in quotes, as the letters before it demand. -/
def checkQuoted (letters content : Text) : Except Problem Unit :=
  let isRaw := letters.elem 'r'
  if letters.elem 'b' then
    if content.any fun character => 128 ≤ character.toNat then
      .error (.badText .characterInBytes)
    else
      match if isRaw then none else byteEscapeProblem? 0 content with
      | some problem => .error (.badText problem)
      | none => .ok ()
  else if letters.elem 'f' then .ok ()
  else checkEscapes isRaw content

/-- Checks texts that stand side by side.  Bytes and other texts cannot be mixed; of a
text with fields its kind is looked at before its content. -/
def checkTexts (readField : Text → Except Problem Unit) (isBytes : Bool) :
    List (Text × Text) → Except Problem Unit
  | [] => .ok ()
  | (letters, content) :: rest => do
      checkQuoted letters content
      if letters.elem 'b' != isBytes then throw (.badText .mixedKinds)
      if letters.elem 'f' then
        let _ ← afterParts readField (letters.elem 'r') 0 (2 * content.length + 2) content
      checkTexts readField isBytes rest

end Expression

end SchemaSeed
