import SchemaSeed.Sql.Comment

/-! A schema document as a sequence of table blocks.  A block starts at a marker
CREATE TABLE and ends at its ENGINE clause, or else where the next block starts. -/

namespace SchemaSeed

namespace Sql

/-- A document cut at its markers: the text before the first one, and one slice
from each marker to the next. -/
structure Cut where
  text : Text
  lead : Text
  slices : List Text

namespace Cut

def empty : Cut := ⟨[], [], []⟩

/-- Cuts a text that is one character longer at its front. -/
def push (character : Char) (cut : Cut) : Cut :=
  let text := character :: cut.text
  if (tableMarker? text).isSome then ⟨text, [], (character :: cut.lead) :: cut.slices⟩
  else ⟨text, character :: cut.lead, cut.slices⟩

def ofText (document : Text) : Cut :=
  document.foldr push empty

@[simp] theorem ofText_cons (character : Char) (document : Text) :
    ofText (character :: document) = push character (ofText document) := by
  simp only [ofText, List.foldr_cons]

@[simp] theorem text_ofText (document : Text) : (ofText document).text = document := by
  induction document with
  | nil => rfl
  | cons character document induction =>
      simp only [ofText_cons, push, induction]
      split <;> rfl

/-- Nothing of a document is lost when it is cut. -/
theorem lead_append_slices (document : Text) :
    (ofText document).lead ++ (ofText document).slices.flatten = document := by
  induction document with
  | nil => rfl
  | cons character document induction =>
      simp only [ofText_cons, push, text_ofText]
      split <;> simp [induction]

end Cut

/-- A slice of a document that declares one table. -/
structure Block where
  /-- Where the slice starts in its document. -/
  offset : Nat
  slice : Text
deriving Repr, DecidableEq

namespace Block

/-- The number of characters before the ENGINE clause, if there is one. -/
def engine? (block : Block) : Option Nat :=
  position? engineClause? 0 block.slice

def hasEngine (block : Block) : Bool :=
  block.engine?.isSome

/-- The declaration of the table, without its options and without comments. -/
def declaration (block : Block) : Text :=
  stripComments (block.slice.take (block.engine?.getD block.slice.length))

end Block

def blocksFrom (offset : Nat) : List Text → List Block
  | [] => []
  | slice :: rest => ⟨offset, slice⟩ :: blocksFrom (offset + slice.length) rest

def blocks (document : Text) : List Block :=
  let cut := Cut.ofText document
  blocksFrom cut.lead.length cut.slices

/-- The declarations of all tables of a document, in its order. -/
def segment (document : Text) : List Text :=
  (blocks document).map Block.declaration

end Sql

end SchemaSeed
