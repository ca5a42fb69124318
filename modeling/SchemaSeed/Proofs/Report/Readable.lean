import SchemaSeed.Proofs.Lists
import SchemaSeed.Report

/-! Texts that a table can show.  A table is made if its title and each of its cells can be read
as markup and have no styles that are unknown; nothing else stands in its way.  Markup starts
with a bracket, so a text without one can always be shown. -/

namespace SchemaSeed

namespace Markup

theorem read_of_no_bracket {text : Text} (plain : '[' ∉ text) :
    read text = .ok ⟨visible text, []⟩ := by
  have absent : text.elem '[' = false := by simpa using plain
  rw [read, absent]
  rfl

end Markup

namespace Marked

/-! Nothing that is cut out of a text without stretches has any. -/

theorem stretches_of_mem_lines {marked : Marked} (plain : marked.stretches = []) :
    ∀ line ∈ marked.lines, line.stretches = [] := by
  intro line member
  rw [lines] at member
  split at member
  · rcases List.mem_map.mp member with ⟨range, -, rfl⟩
    simp [slice, plain]
  · rwa [List.mem_singleton.mp member]

theorem stretches_setTabs {pieces : List Marked} (plain : ∀ piece ∈ pieces, piece.stretches = [])
    (cell : Nat) : (setTabs cell pieces).stretches = [] := by
  fun_induction setTabs cell pieces with
  | case1 => rfl
  | case2 cell last => exact plain last List.mem_cons_self
  | case3 cell piece rest _ spaced reached filled induction =>
      rw [List.forall_mem_cons] at plain
      have later := induction plain.2
      have first : filled.stretches = [] := by
        simp only [filled, fillTo, spaced, plain.1, List.map_nil]
      show filled.stretches ++ _ = _
      rw [first, List.nil_append, List.map_eq_nil_iff]
      exact later

theorem stretches_expandTabs {line : Marked} (plain : line.stretches = []) :
    line.expandTabs.stretches = [] := by
  rw [expandTabs]
  split
  · refine stretches_setTabs (fun piece member => ?_) 0
    rcases List.mem_map.mp member with ⟨range, -, rfl⟩
    simp [slice, plain]
  · exact plain

theorem checkStyles_append (first second : List Stretch) :
    checkStyles (first ++ second) = .ok () ↔
      checkStyles first = .ok () ∧ checkStyles second = .ok () := by
  induction first with
  | nil => simp [checkStyles]
  | cons stretch first induction =>
      simp only [List.cons_append, checkStyles]
      split
      · simp
      · exact induction

end Marked

namespace Report

/-- The text can be read as markup, and its styles are known. -/
def Readable (text : Text) : Prop :=
  ∃ marked, Markup.read text = .ok marked ∧ Marked.checkStyles (stretches [marked]) = .ok ()

theorem stretches_of_plain {marked : Marked} (plain : marked.stretches = []) :
    stretches [marked] = [] := by
  rw [stretches, List.flatMap_cons, List.flatMap_nil, List.append_nil, List.flatMap_eq_nil_iff]
  exact fun line found =>
    Marked.stretches_expandTabs (Marked.stretches_of_mem_lines plain line found)

theorem readable_of_read {text shown : Text} (read : Markup.read text = .ok ⟨shown, []⟩) :
    Readable text :=
  ⟨⟨shown, []⟩, read, by rw [stretches_of_plain rfl]; rfl⟩

theorem readable_of_no_bracket {text : Text} (plain : '[' ∉ text) : Readable text :=
  readable_of_read (Markup.read_of_no_bracket plain)

theorem checkStyles_stretches {texts : List Marked} :
    Marked.checkStyles (stretches texts) = .ok () ↔
      ∀ text ∈ texts, Marked.checkStyles (stretches [text]) = .ok () := by
  induction texts with
  | nil => simp [stretches, Marked.checkStyles]
  | cons text rest induction =>
      have split : stretches (text :: rest) = stretches [text] ++ stretches rest := by
        simp [stretches]
      rw [split, Marked.checkStyles_append, induction, List.forall_mem_cons]

theorem readAll_eq_mapM (cells : List Text) : readAll cells = cells.mapM Markup.read := by
  induction cells with
  | nil => rfl
  | cons cell rest induction =>
      rw [readAll, List.mapM_cons, ← induction]
      cases Markup.read cell with
      | error => rfl
      | ok => cases readAll rest <;> rfl

theorem readRows_eq_mapM (rows : List (List Text)) : readRows rows = rows.mapM readAll := by
  induction rows with
  | nil => rfl
  | cons row rest induction =>
      rw [readRows, List.mapM_cons, ← induction]
      cases readAll row with
      | error => rfl
      | ok => cases readRows rest <;> rfl

/-- The cells of rows as they are read. -/
def ReadAs (rows : List (List Text)) (marked : List (List Marked)) : Prop :=
  List.Forall₂ (List.Forall₂ fun cell text => Markup.read cell = .ok text) rows marked

theorem readRows_eq_ok_iff {rows : List (List Text)} {marked : List (List Marked)} :
    readRows rows = .ok marked ↔ ReadAs rows marked := by
  simp only [readRows_eq_mapM, readAll_eq_mapM, mapM_eq_ok_iff]
  exact Iff.rfl

/-- A table that is made shows its title and its cells as they were read. -/
theorem exists_of_grid {title : Text} {caption : Option Text} {columns : List Grid.Column}
    {rows : List (List Text)} {text : Text} (shown : grid title caption columns rows = .ok text) :
    ∃ heading marked, Markup.read title = .ok heading ∧ ReadAs rows marked ∧
      Marked.checkStyles (stretches (heading :: marked.flatten)) = .ok () ∧
      text = Grid.render (some heading) (caption.map fun caption => ⟨caption, []⟩) columns
        marked := by
  rw [grid] at shown
  split at shown
  · cases shown
  · cases shown
  · cases shown
  · rename_i marked heading _ readCells readTitle
    cases styled : Marked.checkStyles (stretches (heading :: marked.flatten)) with
    | error fault => simp [styled, Except.map] at shown
    | ok =>
        simp only [styled, Except.map, Except.ok.injEq] at shown
        exact ⟨heading, marked, readTitle, readRows_eq_ok_iff.mp readCells, styled, shown.symm⟩

/-- A table is made exactly if its title and all its cells can be shown. -/
theorem exists_grid_iff {title : Text} {caption : Option Text} {columns : List Grid.Column}
    {rows : List (List Text)} :
    (∃ text, grid title caption columns rows = .ok text) ↔
      Readable title ∧ ∀ row ∈ rows, ∀ cell ∈ row, Readable cell := by
  constructor
  · rintro ⟨text, shown⟩
    rcases exists_of_grid shown with ⟨heading, marked, readTitle, readCells, styled, -⟩
    rw [checkStyles_stretches, List.forall_mem_cons] at styled
    refine ⟨⟨heading, readTitle, styled.1⟩, fun row among cell member => ?_⟩
    rcases exists_of_mem_left readCells among with ⟨texts, amongTexts, readRow⟩
    rcases exists_of_mem_left readRow member with ⟨text, amongRow, read⟩
    exact ⟨text, read, styled.2 text (List.mem_flatten_of_mem amongTexts amongRow)⟩
  · rintro ⟨⟨heading, readTitle, styledTitle⟩, readable⟩
    have cells : ∀ cell ∈ cellsByColumn columns.length rows, Readable cell := by
      intro cell member
      rcases List.mem_flatMap.mp member with ⟨index, -, found⟩
      rcases List.mem_filterMap.mp found with ⟨row, inside, at_index⟩
      exact readable row inside cell (List.mem_of_getElem? at_index)
    have readAll_of {cells : List Text} (readable : ∀ cell ∈ cells, Readable cell) :
        ∃ texts, readAll cells = .ok texts := by
      rw [readAll_eq_mapM, exists_mapM_iff]
      exact fun cell member => (readable cell member).imp fun _ read => read.1
    rcases readAll_of cells with ⟨_, readCells⟩
    have rowsRead : ∃ marked, readRows rows = .ok marked := by
      rw [readRows_eq_mapM, exists_mapM_iff]
      exact fun row among => readAll_of (readable row among)
    rcases rowsRead with ⟨marked, rowsRead⟩
    have styled : Marked.checkStyles (stretches (heading :: marked.flatten)) = .ok () := by
      rw [checkStyles_stretches, List.forall_mem_cons]
      refine ⟨styledTitle, fun text member => ?_⟩
      rcases List.mem_flatten.mp member with ⟨texts, among, inside⟩
      rcases exists_of_mem_right (readRows_eq_ok_iff.mp rowsRead) among with
        ⟨row, amongRows, row_read⟩
      rcases exists_of_mem_right row_read inside with ⟨cell, amongCells, read⟩
      rcases readable row amongRows cell amongCells with ⟨other, readOther, styledOther⟩
      cases read.symm.trans readOther
      exact styledOther
    rw [grid, readCells, rowsRead, readTitle]
    dsimp only
    rw [styled]
    exact ⟨_, rfl⟩

end Report

end SchemaSeed
