import Mathlib.Data.List.Forall2
import SchemaSeed.Proofs.Text.Words
import SchemaSeed.Report.Grid

/-! Cells in their columns.  A column is at least as wide as each of its cells, so a cell shows
its whole text with nothing but spaces around it, and a row of cells that hold no line feed is a
single line. -/

namespace SchemaSeed

/-! ## Widths of text -/

namespace Text

def Measure.shift (cells : Nat) (measure : Measure) : Measure :=
  { measure with cells := cells + measure.cells }

theorem Measure.step_shift (cells : Nat) (measure : Measure) (character : Char) :
    (measure.shift cells).step character = (measure.step character).shift cells := by
  rcases measure with ⟨counted, hidden, widened⟩
  cases hidden with
  | true => rfl
  | false =>
      by_cases joiner : Character.isJoiner character = true
      · simp [Measure.step, Measure.shift, joiner]
      · by_cases selector : Character.isPictographSelector character = true
        · cases widened <;> simp [Measure.step, Measure.shift, joiner, selector, Nat.add_assoc]
        · simp [Measure.step, Measure.shift, joiner, selector, Nat.add_assoc]

theorem Measure.foldl_shift (cells : Nat) (measure : Measure) (text : Text) :
    text.foldl Measure.step (measure.shift cells) =
      (text.foldl Measure.step measure).shift cells := by
  induction text generalizing measure with
  | nil => rfl
  | cons character text induction =>
      rw [List.foldl_cons, Measure.step_shift, induction, List.foldl_cons]

theorem measure_spaces (count : Nat) :
    measure (Grid.spaces count) = (⟨0, false, false⟩ : Measure).shift count := by
  induction count with
  | zero => rfl
  | succ count induction =>
      have step : Measure.step ⟨0, false, false⟩ ' ' = ⟨1, false, false⟩ := by decide
      have split : Grid.spaces (count + 1) = Grid.spaces count ++ [' '] :=
        List.replicate_succ'
      rw [split, measure_append, induction, List.foldl_cons, List.foldl_nil, Measure.step_shift,
        step]
      rfl

theorem width_spaces_append (count : Nat) (text : Text) :
    width (Grid.spaces count ++ text) = count + width text := by
  rw [width, measure_append, measure_spaces, Measure.foldl_shift]
  rfl

theorem cells_step_space_le (measure : Measure) :
    (measure.step ' ').cells ≤ measure.cells + 1 := by
  have width : Character.width ' ' = 1 := by decide
  have joiner : Character.isJoiner ' ' = false := by decide
  have selector : Character.isPictographSelector ' ' = false := by decide
  simp only [Measure.step, joiner, selector, width]
  split <;> simp

theorem width_append_spaces_le (text : Text) (count : Nat) :
    width (text ++ Grid.spaces count) ≤ width text + count := by
  induction count with
  | zero => simp [Grid.spaces]
  | succ count induction =>
      have split : text ++ Grid.spaces (count + 1) = (text ++ Grid.spaces count) ++ [' '] := by
        rw [List.append_assoc]
        exact congrArg (text ++ ·) List.replicate_succ'
      rw [split, width, measure_append]
      exact Nat.le_trans (cells_step_space_le _) (Nat.succ_le_succ induction)

end Text

namespace Marked

theorem lines_of_single {marked : Marked} (single : '\n' ∉ marked.text) :
    marked.lines = [marked] := by
  rw [lines, if_neg (by simpa using single)]

theorem expandTabs_of_untabbed {line : Marked} (untabbed : '\t' ∉ line.text) :
    line.expandTabs = line := by
  rw [expandTabs, if_neg (by simpa using untabbed)]

theorem slice_subset (start stop : Nat) (marked : Marked) :
    (marked.slice start stop).text ⊆ marked.text :=
  List.Subset.trans (List.take_subset _ _) (List.drop_subset _ _)

theorem cropBlanks_subset (size : Nat) (line : Marked) :
    (line.cropBlanks size).text ⊆ line.text := by
  simp only [cropBlanks]
  split
  · exact List.Subset.refl _
  · exact slice_subset _ _ line

theorem cropBlanks_of_short {line : Marked} {size : Nat} (short : line.text.length ≤ size) :
    line.cropBlanks size = line := by
  simp only [cropBlanks, Nat.sub_eq_zero_of_le short, Nat.min_zero, if_true]

/-- The last character, if there is one, is not blank. -/
def EndsSolid (text : Text) : Prop :=
  ∀ last, text.getLast? = some last → Character.isBlank last = false

theorem EndsSolid.reverse {text : Text} (solid : EndsSolid text) :
    text.reverse.takeWhile Character.isBlank = [] ∧
      text.reverse.dropWhile Character.isBlank = text.reverse := by
  cases reversed : text.reverse with
  | nil => exact ⟨rfl, rfl⟩
  | cons last rest =>
      have known := solid last (by rw [← List.head?_reverse, reversed]; rfl)
      exact ⟨by simp [known], by simp [known]⟩

theorem cropBlanks_of_solid {line : Marked} (solid : EndsSolid line.text) (size : Nat) :
    line.cropBlanks size = line := by
  simp only [cropBlanks, solid.reverse.1, List.length_nil, Nat.zero_min, if_true]

theorem pieces_of_plain (text : Text) : pieces ⟨text, []⟩ = [text] := by
  simp [pieces, Text.slice]

theorem pieces_subset {marked : Marked} {piece : Text} (member : piece ∈ marked.pieces) :
    piece ⊆ marked.text := by
  rcases List.mem_map.mp member with ⟨range, -, rfl⟩
  exact List.Subset.trans (List.take_subset _ _) (List.drop_subset _ _)

end Marked

namespace Grid

open Marked (EndsSolid)

/-- The cell holds the text and nothing but spaces around it. -/
def Shows (text cell : Text) : Prop :=
  ∃ before after, cell = spaces before ++ text ++ spaces after

/-- Blanks at the end of the text are kept where it stands at the left and no character in it
goes without a width; a text that ends otherwise is always kept. -/
def Keeps (alignment : Alignment) (text : Text) : Prop :=
  EndsSolid text ∨ alignment = .left ∧ text.length ≤ text.width

theorem align_of_keeps {alignment : Alignment} {text : Text} (keeps : Keeps alignment text)
    (width : Nat) :
    ∃ before after, before + after = width - text.width ∧
      align alignment width ⟨text, []⟩ = ⟨spaces before ++ text ++ spaces after, []⟩ := by
  cases alignment with
  | left => exact ⟨0, width - text.width, Nat.zero_add _, rfl⟩
  | right | center =>
      rcases keeps with solid | ⟨⟨⟩, -⟩
      have kept : (text.reverse.dropWhile Character.isBlank).reverse = text := by
        rw [solid.reverse.2, List.reverse_reverse]
      simp only [align, kept, List.map_nil]
      exact ⟨_, _, by omega, rfl⟩

theorem filled_shows {alignment : Alignment} {width : Nat} {text : Text}
    (keeps : Keeps alignment text) (untabbed : '\t' ∉ text) (narrow : text.width ≤ width) :
    Shows text (filled alignment width ⟨text, []⟩) := by
  have uncropped : Marked.cropBlanks width ⟨text, []⟩ = ⟨text, []⟩ := by
    rcases keeps with solid | ⟨-, short⟩
    · exact Marked.cropBlanks_of_solid solid width
    · exact Marked.cropBlanks_of_short (Nat.le_trans short narrow)
  rcases align_of_keeps keeps width with ⟨before, after, sum, aligned⟩
  have measured : Text.width (spaces before ++ text ++ spaces after) ≤ width := by
    have whole := Text.width_append_spaces_le (spaces before ++ text) after
    rw [Text.width_spaces_append] at whole
    omega
  rw [filled]
  simp only [@Marked.expandTabs_of_untabbed ⟨text, []⟩ untabbed, uncropped, aligned,
    Marked.pieces_of_plain, List.map_cons, List.map_nil, List.foldr_cons, List.foldr_nil,
    Nat.add_zero, measured, if_true]
  refine ⟨before, after + (width - Text.width (spaces before ++ text ++ spaces after)), ?_⟩
  rw [List.append_assoc, spaces, spaces, spaces, spaces, List.replicate_append_replicate]

/-! ## Lines -/

theorem spaces_subset (count : Nat) (text : Text) : spaces count ⊆ ' ' :: text := by
  intro character member
  rw [List.eq_of_mem_replicate member]
  exact List.mem_cons_self

theorem align_subset (alignment : Alignment) (width : Nat) (line : Marked) :
    (align alignment width line).text ⊆ ' ' :: line.text := by
  have blanks : (line.text.reverse.dropWhile Character.isBlank).reverse ⊆ line.text := by
    rw [List.reverse_subset]
    exact List.Subset.trans (List.dropWhile_subset _) (List.reverse_subset.mpr (List.Subset.refl _))
  have padded {kept : Text} (within : kept ⊆ line.text) (before after : Nat) :
      spaces before ++ kept ++ spaces after ⊆ ' ' :: line.text :=
    List.append_subset.mpr ⟨List.append_subset.mpr
      ⟨spaces_subset _ _, List.subset_cons_of_subset _ within⟩, spaces_subset _ _⟩
  cases alignment with
  | left => exact padded (List.Subset.refl _) _ _
  | right => exact padded blanks _ _
  | center => exact padded blanks _ _

theorem fitting_subset (width : Nat) (text : Text) : fitting width text ⊆ text := by
  rw [fitting]
  cases found : List.find? _ _ with
  | none => exact List.nil_subset _
  | some start =>
      rcases List.mem_map.mp (List.mem_of_find?_eq_some found) with ⟨count, -, rfl⟩
      exact List.take_subset _ _

theorem cropped_subset {text : Text} {pieces : List Text} (within : ∀ piece ∈ pieces, piece ⊆ text)
    (width : Nat) : cropped width pieces ⊆ ' ' :: text := by
  induction pieces generalizing width with
  | nil => exact List.nil_subset _
  | cons piece rest induction =>
      rw [List.forall_mem_cons] at within
      simp only [cropped]
      split
      · exact List.append_subset.mpr
          ⟨List.subset_cons_of_subset _ within.1, induction within.2 _⟩
      · exact List.append_subset.mpr
          ⟨List.subset_cons_of_subset _ (List.Subset.trans (fitting_subset _ _) within.1),
            spaces_subset _ _⟩

/-- A cell holds nothing but its text and spaces. -/
theorem filled_subset (alignment : Alignment) (width : Nat) {line : Marked}
    (untabbed : '\t' ∉ line.text) : filled alignment width line ⊆ ' ' :: line.text := by
  have aligned : (align alignment width (line.cropBlanks width)).text ⊆ ' ' :: line.text :=
    List.Subset.trans (align_subset _ _ _)
      (List.cons_subset_cons _ (Marked.cropBlanks_subset _ _))
  rw [filled]
  simp only [Marked.expandTabs_of_untabbed untabbed]
  split
  · exact List.append_subset.mpr ⟨aligned, spaces_subset _ _⟩
  · have within := cropped_subset (fun piece member =>
      List.Subset.trans (Marked.pieces_subset member) aligned) width
    exact List.Subset.trans within (by simp)

theorem newline_not_mem_boxed {cells : List Text} (clean : ∀ cell ∈ cells, '\n' ∉ cell) :
    '\n' ∉ boxed cells := by
  have edge : '\n' ≠ '│' := by decide
  intro member
  rw [boxed, List.mem_append, List.mem_cons, List.mem_singleton] at member
  simp only [edge, false_or, or_false] at member
  rcases Text.mem_of_mem_join member with between | ⟨part, among, inside⟩
  · exact edge (List.mem_singleton.mp between)
  · rcases List.mem_map.mp among with ⟨cell, present, rfl⟩
    simp [clean cell present] at inside

/-- A row of cells without line feeds is one line. -/
theorem row_of_single {columns : List Column} {widths : List Nat} {cells : List Marked}
    (single : ∀ cell ∈ cells, '\n' ∉ cell.text) :
    row columns widths cells = [boxed (List.zipWith (fun (column, width) cell =>
      filled column.alignment width cell) (columns.zip widths) cells)] := by
  have lines : cells.map Marked.lines = cells.map fun cell => [cell] :=
    List.map_congr_left fun cell member => Marked.lines_of_single (single cell member)
  have height : ((cells.map fun cell => [cell]).map List.length).foldl max 1 = 1 := by
    rw [List.map_map]
    clear lines single
    induction cells with
    | nil => rfl
    | cons cell cells induction => exact induction
  simp only [row, lines, height]
  simp [List.zipWith_map_right]

theorem newline_not_mem_filled (alignment : Alignment) (width : Nat) {line : Marked}
    (single : '\n' ∉ line.text) (untabbed : '\t' ∉ line.text) :
    '\n' ∉ filled alignment width line := by
  intro inside
  rcases List.mem_cons.mp (filled_subset alignment width untabbed inside) with space | here
  · exact absurd space (by decide)
  · exact single here

theorem newline_not_mem_cells {columns : List (Column × Nat)} {cells : List Marked}
    (clean : ∀ cell ∈ cells, '\n' ∉ cell.text ∧ '\t' ∉ cell.text) :
    ∀ text ∈ List.zipWith (fun (column, width) cell => filled column.alignment width cell)
      columns cells, '\n' ∉ text := by
  induction columns generalizing cells with
  | nil => simp
  | cons column columns induction =>
      cases cells with
      | nil => simp
      | cons cell cells =>
          rw [List.forall_mem_cons] at clean
          rw [List.zipWith_cons_cons, List.forall_mem_cons]
          exact ⟨newline_not_mem_filled _ _ clean.1.1 clean.1.2, induction clean.2⟩

theorem newline_not_mem_row {columns : List Column} {widths : List Nat} {cells : List Marked}
    (clean : ∀ cell ∈ cells, '\n' ∉ cell.text ∧ '\t' ∉ cell.text) :
    ∀ line ∈ row columns widths cells, '\n' ∉ line := by
  rw [row_of_single fun cell among => (clean cell among).1, List.forall_mem_singleton]
  exact newline_not_mem_boxed (newline_not_mem_cells clean)

/-! ## Widths of columns -/

theorem zipWith_max_le {left right : List Nat} (same : left.length = right.length) :
    List.Forall₂ (· ≤ ·) left (List.zipWith max left right) ∧
      List.Forall₂ (· ≤ ·) right (List.zipWith max left right) := by
  induction left generalizing right with
  | nil =>
      cases right with
      | nil => exact ⟨.nil, .nil⟩
      | cons => cases same
  | cons first left induction =>
      cases right with
      | nil => cases same
      | cons second right =>
          rcases induction (Nat.succ.inj same) with ⟨lefts, rights⟩
          exact ⟨.cons (Nat.le_max_left _ _) lefts, .cons (Nat.le_max_right _ _) rights⟩

theorem le_trans_forall₂ {first second third : List Nat} (left : List.Forall₂ (· ≤ ·) first second)
    (right : List.Forall₂ (· ≤ ·) second third) : List.Forall₂ (· ≤ ·) first third := by
  induction left generalizing third with
  | nil =>
      cases right
      exact .nil
  | cons here _ induction =>
      cases right with
      | cons there later => exact .cons (Nat.le_trans here there) (induction later)

/-- Columns never become narrower, and reach the width of every cell in them. -/
theorem le_foldl_widths {rows : List (List Marked)} {widths : List Nat}
    (shaped : ∀ row ∈ rows, row.length = widths.length) :
    List.Forall₂ (· ≤ ·) widths
        (rows.foldl (fun widths row => List.zipWith max widths (row.map cellWidth)) widths) ∧
      ∀ row ∈ rows, List.Forall₂ (· ≤ ·) (row.map cellWidth)
        (rows.foldl (fun widths row => List.zipWith max widths (row.map cellWidth)) widths) := by
  induction rows generalizing widths with
  | nil => exact ⟨List.forall₂_refl _, by simp⟩
  | cons row rows induction =>
      rw [List.forall_mem_cons] at shaped
      have same : widths.length = (row.map cellWidth).length := by rw [List.length_map, shaped.1]
      rcases zipWith_max_le same with ⟨wider, reaching⟩
      have shapedLater : ∀ later ∈ rows,
          later.length = (List.zipWith max widths (row.map cellWidth)).length := by
        intro later member
        rw [shaped.2 later member, ← wider.length_eq]
      rcases induction shapedLater with ⟨grows, reaches⟩
      rw [List.foldl_cons]
      exact ⟨le_trans_forall₂ wider grows,
        List.forall_mem_cons.mpr ⟨le_trans_forall₂ reaching grows, reaches⟩⟩

theorem cellWidth_of_single {cell : Marked} (single : '\n' ∉ cell.text) :
    cellWidth cell = cell.text.width := by
  rw [cellWidth, Marked.lines_of_single single]
  exact Nat.zero_max _

/-- In the whole table the rows stand between some lines that do not depend on the title. -/
theorem exists_render (title caption : Option Marked) (columns : List Column)
    (rows : List (List Marked)) :
    ∃ above below, render title caption columns rows =
      (centered (widths columns rows) title ++ above ++
        rows.flatMap (row columns (widths columns rows)) ++ below).flatMap (· ++ ['\n']) := by
  refine ⟨[rule '╭' '┬' '╮' (widths columns rows)] ++
    row columns (widths columns rows) (columns.map fun column => ⟨column.heading, []⟩) ++
      [rule '├' '┼' '┤' (widths columns rows)],
    [rule '╰' '┴' '╯' (widths columns rows)] ++ centered (widths columns rows) caption, ?_⟩
  simp only [render, List.append_assoc]

end Grid

end SchemaSeed
