import SchemaSeed.Report.Style
import SchemaSeed.Text.Width

/-! Text of which some stretches have a style.  Lines are cut out of it with their
stretches, and a line is measured stretch by stretch. -/

namespace SchemaSeed

/-- The characters from `start` up to, not including, `stop`.  A stretch that has an
action has no style. -/
structure Stretch where
  start : Nat
  stop : Nat
  style : Option Text
deriving Repr, DecidableEq

structure Marked where
  text : Text
  stretches : List Stretch := []
deriving Repr, DecidableEq

namespace Stretch

/-- What lies between two positions, counted from the first, unless it is empty. -/
def within? (start stop : Nat) (stretch : Stretch) : Option Stretch :=
  let first := stretch.start - start
  let last := min stretch.stop stop - start
  if first < last then some ⟨first, last, stretch.style⟩ else none

def shift (distance : Nat) (stretch : Stretch) : Stretch :=
  ⟨stretch.start + distance, stretch.stop + distance, stretch.style⟩

end Stretch

namespace Marked

def slice (start stop : Nat) (marked : Marked) : Marked :=
  ⟨marked.text.slice start stop, marked.stretches.filterMap (·.within? start stop)⟩

def append (left right : Marked) : Marked :=
  ⟨left.text ++ right.text, left.stretches ++ right.stretches.map (·.shift left.text.length)⟩

instance : Append Marked := ⟨append⟩

/-- Where the pieces of a text begin and end that `separator` ends, from `position` on. -/
def ranges (separator : Char) (start position : Nat) : Text → List (Nat × Nat)
  | [] => [(start, position)]
  | character :: rest =>
      if character = separator then
        (start, position) :: ranges separator (position + 1) (position + 1) rest
      else ranges separator start (position + 1) rest

def lines (marked : Marked) : List Marked :=
  if marked.text.elem '\n' then
    (ranges '\n' 0 0 marked.text).map fun (start, stop) => marked.slice start stop
  else [marked]

/-! Tabs lead to the next multiple of eight cells.  A stretch that ends with a tab
covers all of it. -/

def tabSize : Nat := 8

def fillTo (count : Nat) (marked : Marked) : Marked :=
  let stretch (found : Stretch) : Stretch :=
    if marked.text.length ≤ found.stop then { found with stop := found.stop + count } else found
  ⟨marked.text ++ List.replicate count ' ', marked.stretches.map stretch⟩

/-- Sets pieces that a tab follows from a cell on; the last one is followed by none. -/
def setTabs (cell : Nat) : List Marked → Marked
  | [] => ⟨[], []⟩
  | [last] => last
  | piece :: rest =>
      let spaced : Marked := ⟨piece.text.dropLast ++ [' '], piece.stretches⟩
      let reached := cell + spaced.text.width
      let filled := spaced.fillTo ((tabSize - reached % tabSize) % tabSize)
      filled ++ setTabs (reached + (tabSize - reached % tabSize) % tabSize) rest

def expandTabs (line : Marked) : Marked :=
  if line.text.elem '\t' then
    let pieces := ranges '\t' 0 0 line.text
    setTabs 0 (pieces.map fun (start, stop) => line.slice start (min (stop + 1) line.text.length))
  else line

/-- A line whose number of characters exceeds `size` loses as many blanks at its end. -/
def cropBlanks (size : Nat) (line : Marked) : Marked :=
  let blanks := (line.text.reverse.takeWhile Character.isBlank).length
  let unwanted := min blanks (line.text.length - size)
  if unwanted = 0 then line else line.slice 0 (line.text.length - unwanted)

/-- The parts of a text that a position divides. -/
def cutAt (position : Nat) (parts : List (Nat × Nat)) : List (Nat × Nat) :=
  parts.flatMap fun (start, stop) =>
    if start < position ∧ position < stop then [(start, position), (position, stop)]
    else [(start, stop)]

/-- The text in pieces, cut wherever a stretch begins or ends. -/
def pieces (marked : Marked) : List Text :=
  let cuts := marked.stretches.flatMap fun stretch => [stretch.start, stretch.stop]
  (cuts.foldr cutAt [(0, marked.text.length)]).map fun (start, stop) =>
    marked.text.slice start stop

/-- Checks the styles of all stretches in their order. -/
def checkStyles : List Stretch → Except Fault Unit
  | [] => .ok ()
  | stretch :: rest =>
      match stretch.style.map Style.check with
      | some (.error fault) => .error fault
      | _ => checkStyles rest

end Marked

end SchemaSeed
