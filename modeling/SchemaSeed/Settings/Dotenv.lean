import SchemaSeed.Datum
import SchemaSeed.Text.Blank

/-! Files of settings, one `KEY=VALUE` per line.  A value may be quoted, and then run
over several lines; lines that fit no form are passed over.  The format is the one that the
`dotenv` library documents: `export` in front of a key, comments behind `#`, escapes within
either kind of quotes, keys without a value, and references to other values. -/

namespace SchemaSeed

namespace Dotenv

def isLineEnd (character : Char) : Bool :=
  character == '\n' || character == '\r'

def isGap (character : Char) : Bool :=
  Character.isBlank character && !isLineEnd character

def skipGap (text : Text) : Text :=
  text.dropWhile isGap

/-- The text after the line end at its start; at the very end there is nothing to
skip. -/
def afterLineEnd? : Text → Option Text
  | [] => some []
  | '\r' :: '\n' :: rest => some rest
  | character :: rest => if isLineEnd character then some rest else none

/-- The text after the current line. -/
def afterLine (text : Text) : Text :=
  match text.dropWhile (!isLineEnd ·) with
  | '\r' :: '\n' :: rest => rest
  | _ :: rest => rest
  | [] => []

def isKeyCharacter (character : Char) : Bool :=
  character != '=' && character != '#' && !Character.isBlank character

/-- The key at the start of a line, if it has one; a comment has none. -/
def key? (text : Text) : Option (Option Text × Text) :=
  match text with
  | '#' :: _ => some (none, text)
  | '\'' :: rest =>
      let name := rest.takeWhile (· != '\'')
      match name, rest.dropWhile (· != '\'') with
      | _ :: _, _ :: after => some (some name, after)
      | _, _ => none
  | _ =>
      let name := text.takeWhile isKeyCharacter
      if name.isEmpty then none else some (some name, text.dropWhile isKeyCharacter)

/-- Text up to the closing quote.  A quote after a backslash closes only if no later
one does. -/
def quotedContent? (quote : Char) (content : Text) : Text → Option (Text × Text)
  | [] => none
  | '\\' :: character :: rest =>
      if character = quote then
        (quotedContent? quote (quote :: '\\' :: content) rest).or
          (some (('\\' :: content).reverse, rest))
      else quotedContent? quote ('\\' :: content) (character :: rest)
  | character :: rest =>
      if character = quote then some (content.reverse, rest)
      else quotedContent? quote (character :: content) rest

/-- The character that an escape stands for inside quotes. -/
def escaped? (quote character : Char) : Option Char :=
  if quote = '\'' then
    if character = '\\' ∨ character = '\'' then some character else none
  else
    match character with
    | '\\' | '\'' | '"' => some character
    | 'a' => some (Char.ofNat 7)
    | 'b' => some (Char.ofNat 8)
    | 'f' => some (Char.ofNat 12)
    | 'n' => some '\n'
    | 'r' => some '\r'
    | 't' => some '\t'
    | 'v' => some (Char.ofNat 11)
    | _ => none

def unescape (quote : Char) : Text → Text
  | '\\' :: character :: rest =>
      match escaped? quote character with
      | some meant => meant :: unescape quote rest
      | none => '\\' :: unescape quote (character :: rest)
  | character :: rest => character :: unescape quote rest
  | [] => []

/-- A value without quotes ends before a comment, which blanks must precede. -/
def withoutComment : Text → Text
  | [] => []
  | character :: rest =>
      if Character.isBlank character ∧ (Text.skipBlanks rest).head? = some '#' then []
      else character :: withoutComment rest

def value? (text : Text) : Option (Text × Text) :=
  match text with
  | '\'' :: rest =>
      (quotedContent? '\'' [] rest).map fun (content, after) => (unescape '\'' content, after)
  | '"' :: rest =>
      (quotedContent? '"' [] rest).map fun (content, after) => (unescape '"' content, after)
  | _ =>
      let line := text.takeWhile (!isLineEnd ·)
      some (((withoutComment line).reverse.dropWhile Character.isBlank).reverse,
        text.dropWhile (!isLineEnd ·))

/-- A key with its value; without an equals sign there is a key but no value. -/
structure Binding where
  key : Text
  value : Option Text
deriving Repr, DecidableEq

def withoutExport (text : Text) : Text :=
  match Text.after? "export" text with
  | some rest =>
      match rest with
      | character :: _ => if isGap character then skipGap rest else text
      | [] => text
  | none => text

def skipComment (text : Text) : Text :=
  match skipGap text with
  | '#' :: rest => rest.dropWhile (!isLineEnd ·)
  | _ => text

/-- The value after a key, if there is one, and the text after it. -/
def assigned? (text : Text) : Option (Option Text × Text) :=
  match text with
  | '=' :: rest => (value? (skipGap rest)).map fun (value, after) => (some value, after)
  | _ => some (none, text)

/-- What a line may hold.  A line of no form is known by its number. -/
inductive Statement
  | binding (binding : Binding)
  | comment
  | unreadable (line : Nat)
deriving Repr, DecidableEq

/-- One statement, which starts on that line, and the text still to be read.  Where it
fits no form, what is left of its line is passed over. -/
def statement (line : Nat) (text : Text) : Statement × Text :=
  let start := withoutExport text
  match key? start with
  | none => (.unreadable line, afterLine start)
  | some (key, afterKey) =>
      match assigned? (skipGap afterKey) with
      | none => (.unreadable line, afterLine afterKey)
      | some (value, afterValue) =>
          let ending := skipComment afterValue
          match afterLineEnd? (skipGap ending) with
          | none => (.unreadable line, afterLine ending)
          | some rest =>
              match key with
              | some key => (.binding ⟨key, value⟩, rest)
              | none => (.comment, rest)

/-- All statements of a text that starts on that line.  Blank lines before a statement
count as part of it.  `fuel` bounds the number of statements. -/
def statementsWithin : (fuel : Nat) → (line : Nat) → Text → List Statement
  | 0, _, _ => []
  | fuel + 1, line, text =>
      match Text.skipBlanks text with
      | [] => []
      | start =>
          let (statement, rest) := statement line start
          let lines := text.count '\n' - rest.count '\n'
          statement :: statementsWithin fuel (line + lines) rest

def statements (text : Text) : List Statement :=
  statementsWithin (text.length + 1) 1 text

def bindings (text : Text) : List Binding :=
  (statements text).filterMap fun
    | .binding binding => some binding
    | _ => none

/-- A complaint for each statement that fits no form. -/
def complaints (text : Text) : List Text :=
  (statements text).filterMap fun
    | .unreadable line =>
        some ("python-dotenv could not parse statement starting at line " ++
          Decimal.natural line)
    | _ => none

/-! Values may refer to others by `$` and a name in braces.  After `:-` comes a
substitute for names that are not known; a key without value counts as empty. -/

structure Reference where
  name : Text
  substitute : Option Text

def reference? : Text → Option (Reference × Text)
  | '$' :: '\x7b' :: rest =>
      let name := rest.takeWhile fun character => character != '\x7d' && character != ':'
      match rest.dropWhile fun character => character != '\x7d' && character != ':' with
      | '\x7d' :: after => some (⟨name, none⟩, after)
      | ':' :: '-' :: more =>
          match more.dropWhile (· != '\x7d') with
          | _ :: after => some (⟨name, some (more.takeWhile (· != '\x7d'))⟩, after)
          | [] => none
      | _ => none
  | _ => none

def resolveWithin (lookup : Text → Option Text) : (fuel : Nat) → Text → Text
  | 0, text => text
  | _, [] => []
  | fuel + 1, character :: rest =>
      match reference? (character :: rest) with
      | some (reference, after) =>
          ((lookup reference.name).or reference.substitute).getD [] ++
            resolveWithin lookup fuel after
      | none => character :: resolveWithin lookup fuel rest

/-- Resolves the references of each value by the values before it, and else by the
environment. -/
def resolve (environment : List (Text × Text)) (known : List (Text × Option Text)) :
    List Binding → List (Text × Option Text)
  | [] => known
  | ⟨key, value⟩ :: rest =>
      let lookup (name : Text) : Option Text :=
        match Fields.get? name known with
        | some value => some (value.getD [])
        | none => Fields.get? name environment
      let resolved := value.map fun text => resolveWithin lookup (text.length + 1) text
      resolve environment (Fields.set key resolved known) rest

/-- The values of a file of settings. -/
def read (environment : List (Text × Text)) (text : Text) : List (Text × Option Text) :=
  resolve environment [] (bindings text)

end Dotenv

end SchemaSeed
