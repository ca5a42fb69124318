import SchemaSeed.Report.Marked

/-! Tables of text in a box with rounded corners.  A column is as wide as its widest
line, and every cell has a space on either side; title and caption are centered over the
whole width.  This is the layout that `rich` documents for a table with the box `ROUNDED`
and no other options. -/

namespace SchemaSeed

namespace Grid

inductive Alignment
  | left
  | right
  | center
deriving Repr, DecidableEq

def spaces (count : Nat) : Text :=
  List.replicate count ' '

/-- Fills a line up to `width` with spaces.  Lines that are moved lose the blanks at
their end. -/
def align (alignment : Alignment) (width : Nat) (line : Marked) : Marked :=
  let kept :=
    match alignment with
    | .left => line.text
    | _ => (line.text.reverse.dropWhile Character.isBlank).reverse
  let missing := width - kept.width
  let before :=
    match alignment with
    | .left => 0
    | .right => missing
    | .center => missing / 2
  ⟨spaces before ++ kept ++ spaces (missing - before), line.stretches.map (·.shift before)⟩

/-- The longest start of a text that takes no more than `width` cells. -/
def fitting (width : Nat) (text : Text) : Text :=
  (((List.range (text.length + 1)).reverse.map text.take).find?
    fun start => Text.width start ≤ width).getD []

/-- Pieces up to a width. -/
def cropped (width : Nat) : List Text → Text
  | [] => []
  | piece :: rest =>
      if piece.width < width then piece ++ cropped (width - piece.width) rest
      else
        let kept := fitting width piece
        kept ++ spaces (width - kept.width)

/-- A line in a cell.  What follows a joiner is hidden only within one piece, so a line
that was filled may still be short or long by a few cells. -/
def filled (alignment : Alignment) (width : Nat) (line : Marked) : Text :=
  let aligned := align alignment width ((line.expandTabs).cropBlanks width)
  let pieces := aligned.pieces
  let measured := (pieces.map Text.width).foldr (· + ·) 0
  if measured ≤ width then aligned.text ++ spaces (width - measured)
  else cropped width pieces

structure Column where
  heading : Text
  alignment : Alignment
deriving Repr, DecidableEq

def cellWidth (cell : Marked) : Nat :=
  (cell.lines.map (·.text.width)).foldl max 0

/-- The widths of the columns, from headings and rows. -/
def widths (columns : List Column) (rows : List (List Marked)) : List Nat :=
  rows.foldl (fun widths row => List.zipWith max widths (row.map cellWidth))
    (columns.map (·.heading.width))

/-- A line of the box: its ends, what stands between columns, and the line itself. -/
def rule (left between right : Char) (widths : List Nat) : Text :=
  let segments := widths.map fun width => List.replicate (width + 2) '─'
  left :: Text.join [between] segments ++ [right]

def boxed (cells : List Text) : Text :=
  '│' :: Text.join ['│'] (cells.map fun cell => ' ' :: cell ++ [' ']) ++ ['│']

/-- A row of cells, as many lines as its highest cell has. -/
def row (columns : List Column) (widths : List Nat) (cells : List Marked) : List Text :=
  let split := cells.map Marked.lines
  let height := (split.map List.length).foldl max 1
  (List.range height).map fun index =>
    boxed (List.zipWith (fun (column, width) cell =>
      filled column.alignment width (cell.getD index ⟨[], []⟩)) (columns.zip widths) split)

def totalWidth (widths : List Nat) : Nat :=
  (widths.map (· + 3)).foldr (· + ·) 0 + 1

def centered (widths : List Nat) (text : Option Marked) : List Text :=
  match text with
  | some text =>
      text.lines.map fun line => (align .center (totalWidth widths) line.expandTabs).text
  | none => []

/-- The whole table, each line ended by a line feed. -/
def render (title caption : Option Marked) (columns : List Column)
    (rows : List (List Marked)) : Text :=
  let widths := widths columns rows
  let body := rows.flatMap (row columns widths)
  let all := centered widths title ++ [rule '╭' '┬' '╮' widths] ++
    row columns widths (columns.map fun column => ⟨column.heading, []⟩) ++
    [rule '├' '┼' '┤' widths] ++ body ++ [rule '╰' '┴' '╯' widths] ++ centered widths caption
  all.flatMap (· ++ ['\n'])

end Grid

end SchemaSeed
