import SchemaSeed.Report.Marked
import SchemaSeed.Text.Emoji

/-! Markup in report cells.  A tag stands in square brackets and starts with a small
letter or one of `#`, `/` and `@`; it does not show, but styles the text up to the tag
that closes it.  Backslashes before it count in pairs, and one left over makes the tag
plain text.  Names of pictographs between colons stand for these.  These are the rules that
`rich` documents for console markup, with the errors it raises for tags that close nothing
and for actions that cannot be read. -/

namespace SchemaSeed

namespace Markup

structure Tag where
  name : Text
  parameters : Option Text
deriving Repr, DecidableEq

def Tag.ofText (content : Text) : Tag :=
  let name := content.takeWhile (· != '=')
  match content.dropWhile (· != '=') with
  | _ :: parameters => ⟨name, some parameters⟩
  | [] => ⟨name, none⟩

def Tag.text (tag : Tag) : Text :=
  match tag.parameters with
  | some parameters => "[" ++ tag.name ++ "=" ++ parameters ++ "]"
  | none => "[" ++ tag.name ++ "]"

def startsTag (character : Char) : Bool :=
  ('a' ≤ character && character ≤ 'z') || character ∈ ['#', '/', '@']

/-- The content of a tag whose opening bracket has just been read, and the text
after the tag. -/
def tagContent? : Text → Option (Text × Text)
  | [] => none
  | first :: rest =>
      if startsTag first then
        let content := rest.takeWhile fun character => character != ']' && character != '['
        match rest.dropWhile fun character => character != ']' && character != '[' with
        | ']' :: after => some (first :: content, after)
        | _ => none
      else none

/-- Backslashes, a tag, and the text after it. -/
def escapedTag? (text : Text) : Option (Nat × Text × Text) :=
  match text.dropWhile (· == '\\') with
  | '[' :: rest =>
      (tagContent? rest).map fun (content, after) =>
        ((text.takeWhile (· == '\\')).length, content, after)
  | _ => none

/-- What a text with markup consists of. -/
inductive Piece where
  | plain (text : Text)
  | tag (position : Nat) (tag : Tag)
deriving Repr, DecidableEq

/-- Plain text read so far, last character first, as a piece of its own. -/
def flush (plain : Text) (pieces : List Piece) : List Piece :=
  if plain.isEmpty then pieces else .plain plain.reverse :: pieces

/-- The pieces of a text, last one first.  `fuel` bounds the characters left. -/
def piecesOnto (pieces : List Piece) (plain : Text) (position : Nat) :
    (fuel : Nat) → Text → List Piece
  | 0, _ => flush plain pieces
  | _, [] => flush plain pieces
  | fuel + 1, character :: rest =>
      match escapedTag? (character :: rest) with
      | none => piecesOnto pieces (character :: plain) (position + 1) fuel rest
      | some (escapes, content, after) =>
          let before := flush plain pieces
          let doubled :=
            if 2 ≤ escapes then .plain (List.replicate (escapes / 2) '\\') :: before else before
          let found :=
            if escapes % 2 = 1 then Piece.plain ("[" ++ content ++ "]")
            else Piece.tag (position + 2 * (escapes / 2)) (Tag.ofText content)
          piecesOnto (found :: doubled) [] (position + escapes + content.length + 2) fuel after

def pieces (text : Text) : List Piece :=
  (piecesOnto [] [] 0 text.length text).reverse

/-- A backslash before an opening bracket does not show. -/
def unescapeBrackets : Text → Text
  | '\\' :: '[' :: rest => '[' :: unescapeBrackets rest
  | character :: rest => character :: unescapeBrackets rest
  | [] => []

/-- Controls that a terminal would act upon. -/
def isControl (character : Char) : Bool :=
  character.toNat ∈ [7, 8, 11, 12, 13]

/-- How plain text shows. -/
def visible (text : Text) : Text :=
  (Emoji.replace text).filter (!isControl ·)

/-- A tag that is open: where its text starts, its name in normal form, and what else it
says. -/
structure OpenTag where
  start : Nat
  name : Text
  parameters : Option Text
deriving Repr, DecidableEq

/-- What a tag styles.  A tag that starts with `@` has an action once it is closed. -/
def OpenTag.stretch (tag : OpenTag) (closed : Bool) (stop : Nat) : Stretch :=
  let style : Text :=
    match tag.parameters with
    | some parameters => tag.name ++ ' ' :: parameters
    | none => tag.name
  ⟨tag.start, stop, if closed && tag.name.head? = some '@' then none else some style⟩

/-- The arguments in parentheses that follow the name of a handler, if there are any, and
nothing where it is no handler at all. -/
def handlerArguments? (parameters : Text) : Option (Option Text) :=
  match parameters.dropWhile fun character => Character.isWord character || character == '.' with
  | [] => some none
  | '(' :: rest =>
      if rest.getLast? = some ')' ∧ !rest.elem '\n' then some (some ('(' :: rest)) else none
  | _ => none

/-- The parameters of an action have to be the name of a handler, arguments for one, or
both, or else a literal value. -/
def checkAction (parameters : Text) : Except Fault Unit :=
  let expression := match handlerArguments? (Text.strip parameters) with
    | some none => []
    | some (some arguments) => arguments
    | none => Text.strip parameters
  if expression.isEmpty then .ok ()
  else
    match Expression.check expression with
    | .ok _ => .ok ()
    | .error problem => .error (.badAction expression parameters problem)

/-- An action is looked at when its tag is closed. -/
def OpenTag.check (tag : OpenTag) : Except Fault Unit :=
  match tag.name, tag.parameters with
  | '@' :: _, some parameters => checkAction parameters
  | _, _ => .ok ()

/-- The nearest open tag of that name, and the tags without it. -/
def close? (name : Text) : List OpenTag → Option (OpenTag × List OpenTag)
  | [] => none
  | tag :: rest =>
      if tag.name = name then some (tag, rest)
      else (close? name rest).map fun (found, others) => (found, tag :: others)

/-- What has been read of a text: what shows of it, the stretches that have been closed,
last one first, and the tags that are open, last one first. -/
structure Progress where
  text : Text := []
  closed : List Stretch := []
  opened : List OpenTag := []

def Progress.close (progress : Progress) (tag : OpenTag) (opened : List OpenTag) :
    Except Fault Progress :=
  tag.check.map fun _ =>
    { progress with
      closed := tag.stretch true progress.text.length :: progress.closed, opened := opened }

def Progress.read (progress : Progress) : Piece → Except Fault Progress
  | .plain text =>
      .ok { progress with text := progress.text ++ visible (unescapeBrackets text) }
  | .tag position tag =>
      match tag.name with
      | '/' :: closed =>
          let name := Text.strip closed
          if name.isEmpty then
            match progress.opened with
            | nearest :: outer => progress.close nearest outer
            | [] => .error (.nothingToClose position)
          else
            match Style.normalize name with
            | .error fault => .error fault
            | .ok name =>
                match close? name progress.opened with
                | some (found, others) => progress.close found others
                | none => .error (.strayClosingTag tag.text position)
      | name =>
          (Style.normalize name).map fun name =>
            { progress with
              opened := ⟨progress.text.length, name, tag.parameters⟩ :: progress.opened }

def Progress.readAll (progress : Progress) : List Piece → Except Fault Progress
  | [] => .ok progress
  | piece :: rest =>
      match progress.read piece with
      | .error fault => .error fault
      | .ok progress => progress.readAll rest

/-- Tags that are still open reach to the end; stretches come in the order in which they
start, the outer before the inner. -/
def Progress.marked (progress : Progress) : Marked :=
  let stretches := (progress.opened.map (·.stretch false progress.text.length)).reverse ++
    progress.closed
  ⟨progress.text, stretches.mergeSort fun left right => left.start ≤ right.start⟩

/-- Reads a text with markup. -/
def read (text : Text) : Except Fault Marked :=
  if text.elem '[' then (Progress.readAll {} (pieces text)).map Progress.marked
  else .ok ⟨visible text, []⟩

end Markup

end SchemaSeed
