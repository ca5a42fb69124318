import SchemaSeed.Text.Expression.Problem
import SchemaSeed.Text.Identifier

/-! Tokens of expressions: words, numbers, text in quotes, marks, and the ends of lines
that no bracket spans.  Brackets have to match, and what is no token at all is refused. -/

namespace SchemaSeed

namespace Expression

/-- What a number may be.  Of a numeral that is too long to be converted only its length
is kept. -/
inductive Numeral
  | whole (value : Nat)
  | tooLong (digits : Nat)
  | real
  | imaginary
deriving Repr, DecidableEq

inductive Token
  | word (name : Text)
  | number (numeral : Numeral)
  /-- The letters before the opening quote, in lower case, and what is between the quotes. -/
  | quoted (letters content : Text)
  | mark (symbol : Text)
  | lineEnd
  | indent
  | finish
deriving Repr, DecidableEq

/-- A token, the line it starts in, and how many brackets are open after it. -/
structure Placed where
  token : Token
  line : Nat
  depth : Nat
deriving Repr, DecidableEq

/-! Numbers. -/

/-- The text after digits, between which single underscores may stand; an underscore
that no digit follows is refused. -/
def afterDigits? (isDigit : Char → Bool) : Text → Option Text
  | '_' :: next :: rest => if isDigit next then afterDigits? isDigit rest else none
  | ['_'] => none
  | character :: rest =>
      if isDigit character then afterDigits? isDigit rest else some (character :: rest)
  | [] => some []

/-- Whether a word that may follow a number at once starts a text.  The short ones are
known by their letters alone. -/
def startsFollower (text : Text) : Bool :=
  ["if".toList, "in".toList, "is".toList].any (Text.startsWith text) ||
    (["and", "else", "for", "not", "or"].map String.toList).contains
      (text.takeWhile fun character => Character.isWord character || 128 ≤ character.toNat)

/-- A number must not run into any other word in ASCII. -/
def ended (kind : Text) (numeral : Numeral) (after : Text) : Except Problem (Token × Text) :=
  let runsOn := after.head?.any fun character =>
    Character.isWord character && character.toNat < 128
  if runsOn && !startsFollower after then .error (.badNumber kind)
  else .ok (.number numeral, after)

/-- The number that the digits of a base denote; underscores do not count. -/
def valueIn (base : Nat) (digits : Text) : Nat :=
  digits.foldl (fun total digit =>
    if digit = '_' then total
    else if digit.isDigit then base * total + (digit.toNat - '0'.toNat)
    else base * total + (digit.toLower.toNat - 'a'.toNat + 10)) 0

def isHexadecimal (digit : Char) : Bool :=
  digit.isDigit || ('a' ≤ digit && digit ≤ 'f') || ('A' ≤ digit && digit ≤ 'F')

/-- The digits after the mark of a base. -/
def based (kind : Text) (base : Nat) (isDigit : Char → Bool) (text : Text) :
    Except Problem (Token × Text) :=
  match afterDigits? isDigit text with
  | none => .error (.badNumber kind)
  | some after =>
      match after.head?.filter Char.isDigit with
      | some digit => .error (.badDigit digit kind)
      | none =>
          if after.length = text.length then .error (.badNumber kind)
          else ended kind (.whole (valueIn base (text.take (text.length - after.length)))) after

def decimalKind : Text := "decimal"

/-- The text after the fraction of a number, if it has one. -/
def afterFraction? (text : Text) : Option Text :=
  match text with
  | '.' :: digit :: rest =>
      if digit.isDigit then afterDigits? Char.isDigit (digit :: rest) else some (digit :: rest)
  | '.' :: [] => some []
  | _ => some text

/-- The text after the exponent of a number, if it has one. -/
def afterExponent? (text : Text) : Option Text :=
  match text with
  | mark :: rest =>
      if mark = 'e' ∨ mark = 'E' then
        match rest with
        | sign :: digit :: more =>
            if (sign = '+' ∨ sign = '-') ∧ digit.isDigit then
              afterDigits? Char.isDigit (digit :: more)
            else if sign.isDigit then afterDigits? Char.isDigit rest
            else if startsFollower text then some text
            else none
        | [digit] => if digit.isDigit then some [] else none
        | [] => none
      else some text
  | [] => some []

/-- A decimal number.  Zeros may stand before a fraction, an exponent, or a word that
starts like one. -/
def decimal (text : Text) : Except Problem (Token × Text) :=
  let parts := (afterDigits? Char.isDigit text).bind fun afterWhole =>
    (afterFraction? afterWhole).bind fun afterFraction =>
      (afterExponent? afterFraction).map fun after => (afterWhole, after)
  match parts with
  | none => .error (.badNumber decimalKind)
  | some (afterWhole, after) =>
      let whole := (text.take (text.length - afterWhole.length)).filter (· != '_')
      match after with
      | 'j' :: rest | 'J' :: rest => ended "imaginary" .imaginary rest
      | _ =>
          let hasZeros := whole.head? = some '0' ∧ whole.any (· != '0')
          let runsOn := after.head?.any fun character => character = 'e' ∨ character = 'E'
          if after.length < afterWhole.length ∨ hasZeros ∧ runsOn then
            ended decimalKind .real after
          else if hasZeros then .error .leadingZeros
          else if Decimal.digitLimit < whole.length then
            ended decimalKind (.tooLong whole.length) after
          else ended decimalKind (.whole (valueIn 10 whole)) after

def number (text : Text) : Except Problem (Token × Text) :=
  match text with
  | '0' :: mark :: rest =>
      if mark = 'x' ∨ mark = 'X' then
        based "hexadecimal" 16 isHexadecimal rest
      else if mark = 'o' ∨ mark = 'O' then
        based "octal" 8 (fun digit => '0' ≤ digit && digit ≤ '7') rest
      else if mark = 'b' ∨ mark = 'B' then
        based "binary" 2 (fun digit => digit == '0' || digit == '1') rest
      else decimal text
  | _ => decimal text

/-! Words. -/

/-- Whether a character belongs to a word, unless the word is refused for it. -/
def joinsWord (character : Char) : Bool :=
  Character.isWord character || 128 ≤ character.toNat

/-- The first character of a word that makes it no identifier. -/
def intruder? (word : Text) : Option Char :=
  match word with
  | [] => none
  | first :: rest =>
      if Character.startsIdentifier first then rest.find? (!Character.continuesIdentifier ·)
      else some first

/-! Text in quotes. -/

/-- What stands before the closing quote on the same line and the text after it, or else
the number of line ends that are passed.  A backslash takes the character after it along. -/
def untilQuote (quote : Char) (passed : Text) : Text → Except Nat (Text × Text)
  | [] => .error (passed.count '\n')
  | '\\' :: next :: rest => untilQuote quote (next :: '\\' :: passed) rest
  | character :: rest =>
      if character = quote then .ok (passed.reverse, rest)
      else if character = '\n' then .error (passed.count '\n')
      else untilQuote quote (character :: passed) rest

/-- What stands before three closing quotes and the text after them, or else the number
of line ends that are passed. -/
def untilTripleQuote (quote : Char) (passed : Text) : Text → Except Nat (Text × Text)
  | [] => .error (passed.count '\n')
  | '\\' :: next :: rest => untilTripleQuote quote (next :: '\\' :: passed) rest
  | character :: rest =>
      if character = quote ∧ Text.startsWith rest [quote, quote] then
        .ok (passed.reverse, rest.drop 2)
      else untilTripleQuote quote (character :: passed) rest

/-- The content of a text whose opening quote has just been read, and the text after it. -/
def quotedContent (quote : Char) (line : Nat) (text : Text) : Except Problem (Text × Text) :=
  let tripled := Text.startsWith text [quote, quote]
  let found :=
    if tripled then untilTripleQuote quote [] (text.drop 2) else untilQuote quote [] text
  match found with
  | .ok parts => .ok parts
  | .error passed => .error (.unterminatedText tripled (line + passed))

def isQuote (character : Char) : Bool :=
  character == '\'' || character == '"'

/-- Letters that may stand right before a quote. -/
def quoteLetters : List Text := ["r", "u", "b", "f", "br", "rb", "fr", "rf"]

/-! Marks. -/

def longMarks : List Text := [
  "**=", "//=", ">>=", "<<=", "...", "==", "!=", "<=", ">=", "->", "+=", "-=", "*=", "/=", "%=",
  "&=", "|=", "^=", "@=", "//", "**", "<<", ">>", ":=", "<>"]

def isMark (character : Char) : Bool :=
  character ∈ "+-*/%@&|^~<>=.,:;$?!\x60".toList

def opening? (closing : Char) : Option Char :=
  match closing with
  | ')' => some '('
  | ']' => some '['
  | '\x7d' => some '\x7b'
  | _ => none

def isOpening (character : Char) : Bool :=
  character ∈ ['(', '[', '\x7b']

/-- The most brackets that may be open at once. -/
def depthLimit : Nat := 200

/-- What has been read of an expression: its tokens, last one first, the brackets that
are open with their lines, the line that is being read, whether it has just begun, and
the indentations that are in force.  An indentation is measured with tabs of eight and of
one.  A text in quotes ends with its quote; any other token at the end of all text ends
with that, which is known then. -/
structure Scan where
  read : List Placed := []
  opened : List (Char × Nat) := []
  line : Nat := 1
  lineBegins : Bool := true
  columns : List (Nat × Nat) := []
  knowsEnd : Bool := false

namespace Scan

def add (scan : Scan) (token : Token) : Scan :=
  { scan with read := ⟨token, scan.line, scan.opened.length⟩ :: scan.read }

def openBracket (scan : Scan) (bracket : Char) : Except Problem Scan :=
  if depthLimit ≤ scan.opened.length then .error .tooDeep
  else .ok ({ scan with opened := (bracket, scan.line) :: scan.opened }.add (.mark [bracket]))

def close (scan : Scan) (closing opening : Char) : Except Problem Scan :=
  match scan.opened with
  | [] => .error (.unmatched closing)
  | (found, line) :: outer =>
      if found = opening then .ok ({ scan with opened := outer }.add (.mark [closing]))
      else .error (.mismatched closing found (if line = scan.line then none else some line))

/-- A quoted text, its opening quote included. -/
def quoted (scan : Scan) (letters text : Text) : Except Problem (Scan × Text) :=
  match text with
  | [] => .ok (scan, [])
  | quote :: rest =>
      (quotedContent quote scan.line rest).map fun (content, after) =>
        ({ scan.add (.quoted letters content) with line := scan.line + content.count '\n' }, after)

def word (scan : Scan) (text : Text) : Except Problem (Scan × Text) :=
  let name := text.takeWhile joinsWord
  let after := text.dropWhile joinsWord
  let letters := name.map Char.toLower
  if after.head?.any isQuote && quoteLetters.contains letters then scan.quoted letters after
  else
    match intruder? name with
    | some character => .error (.unknownCharacter character)
    | none => .ok (scan.add (.word name), after)

/-- The indentation of a line, and the text after it.  Where a backslash joins lines, the
first of them that is indented has the say. -/
def measure (first : Nat) (column narrow line : Nat) :
    Text → Except Problem ((Nat × Nat) × Nat × Text)
  | ' ' :: rest => measure first (column + 1) (narrow + 1) line rest
  | '\t' :: rest => measure first ((column / 8 + 1) * 8) (narrow + 1) line rest
  | '\x0c' :: rest => measure first 0 0 line rest
  | '\\' :: '\n' :: rest =>
      if rest.isEmpty then .error .endOfText
      else measure (if first = 0 then column else first) column narrow (line + 1) rest
  | '\\' :: _ => .error .brokenContinuation
  | rest => .ok (if first = 0 then (column, narrow) else (first, first), line, rest)

/-- Compares an indentation with those in force.  A deeper one is a token; where lines go
back to an earlier one, nothing more is read. -/
def indentTo (scan : Scan) (column narrow : Nat) : Except Problem Scan :=
  let kept := scan.columns.dropWhile fun (deeper, _) => column < deeper
  let (current, currentNarrow) := kept.headD (0, 0)
  if kept.length < scan.columns.length ∧ column ≠ current then .error .unevenIndent
  else if column = current then
    if narrow = currentNarrow then .ok { scan with columns := kept } else .error .mixedIndent
  else if narrow ≤ currentNarrow then .error .mixedIndent
  else .ok ({ scan with columns := (column, narrow) :: kept }.add .indent)

/-- The start of a line that no bracket spans.  An empty line and one that holds nothing
but a comment have no indentation. -/
def beginLine (scan : Scan) (text : Text) : Except Problem (Scan × Text) :=
  match measure 0 0 0 scan.line text with
  | .error problem => .error problem
  | .ok ((column, narrow), line, rest) =>
      let begun := { scan with line := line, lineBegins := false }
      if rest.head?.all fun character => character = '#' ∨ character = '\n' then
        .ok ({ begun with line := line + 1, lineBegins := true },
          (rest.dropWhile (· != '\n')).drop 1)
      else (begun.indentTo column narrow).map fun indented => (indented, rest)

/-- One token, or what lies between tokens. -/
def step (scan : Scan) (character : Char) (rest : Text) : Except Problem (Scan × Text) :=
  let text := character :: rest
  let startsNumber :=
    character.isDigit || (character == '.' && rest.head?.any Char.isDigit)
  if character ∈ [' ', '\t', '\x0c'] then .ok (scan, rest)
  else if character = '\n' then
    let next := { scan with line := scan.line + 1 }
    .ok (if scan.opened.isEmpty then
        { next with read := (scan.add .lineEnd).read, lineBegins := true } else next, rest)
  else if character = '#' then .ok (scan, rest.dropWhile (· != '\n'))
  else if isQuote character then scan.quoted [] text
  else if startsNumber then
    (number text).map fun (token, after) => (scan.add token, after)
  else if joinsWord character then scan.word text
  else if isOpening character then (scan.openBracket character).map fun scan => (scan, rest)
  else
    match opening? character with
    | some opening => (scan.close character opening).map fun scan => (scan, rest)
    | none =>
        if character = '\\' then
          match rest with
          | ['\n'] => .error .endOfText
          | '\n' :: after => .ok ({ scan with line := scan.line + 1 }, after)
          | _ => .error .brokenContinuation
        else if isMark character then
          match longMarks.find? (Text.startsWith text) with
          | some symbol => .ok (scan.add (.mark symbol), text.drop symbol.length)
          | none => .ok (scan.add (.mark [character]), rest)
        else .error (.unknownCharacter character)

/-- Whether the last token of a scan is none of those before, and ends with all text. -/
def meetsEnd (before scan : Scan) (after : Text) : Bool :=
  after.isEmpty && before.read.length < scan.read.length &&
    match scan.read with
    | ⟨.quoted .., _, _⟩ :: _ => false
    | _ => true

/-- Reads tokens up to the end or to what stops it.  `fuel` bounds the characters left. -/
def run (scan : Scan) : (fuel : Nat) → Text → Scan × Option Problem
  | 0, _ => (scan, none)
  | _, [] => (scan, none)
  | fuel + 1, character :: rest =>
      let next := if scan.lineBegins then scan.beginLine (character :: rest)
        else scan.step character rest
      match next with
      | .error problem => (scan, some problem)
      | .ok (next, after) =>
          run { next with knowsEnd := meetsEnd scan next after } fuel after

end Scan

/-- The tokens of an expression up to its end, or up to the problem that stops the
reading, the bracket that is open there with its line, and whether the end is known with
the last token. -/
structure Tokens where
  read : Array Placed
  stop : Option Problem
  opened : Option (Char × Nat)
  knowsEnd : Bool

/-- An end in brackets is a problem of the innermost one. -/
def Tokens.ofText (text : Text) : Tokens :=
  let (scan, problem) := Scan.run {} (2 * text.length) text
  let opened := scan.opened.head?
  let stop : Option Problem :=
    match problem, opened with
    | none, some (bracket, _) | some .endOfText, some (bracket, _) => some (.neverClosed bracket)
    | problem, _ => problem
  let scan := if stop.isNone then scan.add .finish else scan
  ⟨scan.read.reverse.toArray, stop, opened, scan.knowsEnd⟩

end Expression

end SchemaSeed
