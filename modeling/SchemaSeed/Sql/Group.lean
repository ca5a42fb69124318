import SchemaSeed.Fault
import SchemaSeed.Sql.Scan

/-! Groups in parentheses, and lists whose separator counts only at the top level.
Text that ends inside quotes is refused by both. -/

namespace SchemaSeed

namespace Sql

/-- The positions of the two parentheses of a group; one that is left open closes
at the end of the text. -/
structure Group where
  opening : Nat
  closing : Nat
deriving Repr, DecidableEq

/-- How the search for a group ends. -/
inductive Search where
  | found (group : Group)
  | absent
  | unterminated (quote : Char)
deriving Repr, DecidableEq

def searchEnd (scan : Scan) (opening : Option Nat) (position : Nat) : Search :=
  match scan.mode.quote?, opening with
  | some quote, _ => .unterminated quote
  | none, some opening => .found ⟨opening, position⟩
  | none, none => .absent

def searchFrom (scan : Scan) (opening : Option Nat) (position : Nat) : Text → Search
  | [] => searchEnd scan opening position
  | character :: rest =>
      let next := scan.step character
      match opening with
      | none =>
          searchFrom next (if next.depth = 0 then none else some position) (position + 1) rest
      | some opened =>
          if next.depth = 0 then .found ⟨opened, position⟩
          else searchFrom next (some opened) (position + 1) rest

/-- The first group at or after position `start`. -/
def findGroup (text : Text) (start : Nat) : Except Fault (Option Group) :=
  match searchFrom Scan.start none start (text.drop start) with
  | .found group => .ok (some group)
  | .absent => .ok none
  | .unterminated quote => .error (.unterminatedQuote quote text)

/-- The parts finished so far and the one being read, both in reverse. -/
structure Parts where
  scan : Scan
  finished : List Text
  current : Text

namespace Parts

def empty : Parts := ⟨Scan.start, [], []⟩

/-- Quotes and opening parentheses never separate. -/
def separates (separator : Text) (scan : Scan) (character : Char) : Bool :=
  scan.isTop && separator == [character] && !isQuote character && character != '('

def step (separator : Text) (parts : Parts) (character : Char) : Parts :=
  if separates separator parts.scan character then
    ⟨parts.scan, parts.current.reverse :: parts.finished, []⟩
  else
    ⟨parts.scan.step character, parts.finished, character :: parts.current⟩

def toList (parts : Parts) : List Text :=
  (parts.current.reverse :: parts.finished).reverse

end Parts

/-- The parts of `text` between the separators at its top level. -/
def splitTop (separator text : Text) : Except Fault (List Text) :=
  let parts := text.foldl (Parts.step separator) Parts.empty
  match parts.scan.mode.quote? with
  | some quote => .error (.unterminatedQuote quote text)
  | none => .ok parts.toList

end Sql

end SchemaSeed
