import SchemaSeed.Proofs.Decimal.Numerals
import SchemaSeed.Proofs.Sql.Parts
import SchemaSeed.RowSet

/-! Generated literals.  Whatever is drawn, a literal is a numeral or stands between double
quotes that nothing in it closes, so it is closed in itself.  Enumerations are left out:
their members are written as they were declared. -/

namespace SchemaSeed

namespace Literal

theorem enclosed_escape (character : Char) : Sql.Enclosed '"' (escape character) := by
  rw [escape]
  split
  · exact .escaped .nil
  · split
    · exact .escaped .nil
    · split
      · exact .escaped .nil
      · split
        · exact .escaped .nil
        · split
          · exact .escaped .nil
          · split
            · exact .escaped .nil
            · split
              · exact .escaped .nil
              · rename_i noQuote _ noBackslash
                exact .plain noQuote noBackslash .nil

theorem enclosed_escapeAll (content : Text) : Sql.Enclosed '"' (escapeAll content) := by
  induction content with
  | nil => exact .nil
  | cons character content induction => exact (enclosed_escape character).append induction

theorem closed_quote {content : Text} (enclosed : Sql.Enclosed '"' content) :
    Sql.Closed (quote content) :=
  Sql.closed_quoted rfl enclosed

/-- The characters of numbers and of instants. -/
def stamps : Text :=
  Decimal.numerals ++ [' ', ':']

theorem closed_of_numerals {text : Text} (known : text ⊆ Decimal.numerals) : Sql.Closed text := by
  have plain : ∀ character ∈ Decimal.numerals, Sql.isQuote character = false ∧
      character ≠ '(' ∧ character ≠ ')' ∧ character ≠ ',' := by decide
  exact Sql.closed_of_plain fun character member => plain character (known member)

theorem closed_quote_of_stamps {text : Text} (known : text ⊆ stamps) : Sql.Closed (quote text) := by
  have plain : ∀ character ∈ stamps, character ≠ '"' ∧ character ≠ '\\' := by decide
  exact closed_quote (.of_plain fun character member => plain character (known member))

theorem stamps_of_numerals {text : Text} (known : text ⊆ Decimal.numerals) : text ⊆ stamps :=
  List.Subset.trans known (List.subset_append_left _ _)

theorem padded_subset (digits number : Nat) : Instant.padded digits number ⊆ stamps :=
  stamps_of_numerals
    (List.append_subset.mpr ⟨Decimal.zeros_subset _, Decimal.natural_subset number⟩)

theorem date_subset (instant : Instant) : instant.date ⊆ stamps := by
  simp only [Instant.date, Text.join_cons_cons, Text.join_singleton, List.append_subset]
  exact ⟨⟨padded_subset _ _, by decide⟩, ⟨padded_subset _ _, by decide⟩, padded_subset _ _⟩

theorem time_subset (instant : Instant) : instant.time ⊆ stamps := by
  simp only [Instant.time, Text.join_cons_cons, Text.join_singleton, List.append_subset]
  exact ⟨⟨padded_subset _ _, by decide⟩, ⟨padded_subset _ _, by decide⟩, padded_subset _ _⟩

theorem dateTime_subset (instant : Instant) : instant.dateTime ⊆ stamps := by
  simp only [Instant.dateTime, List.append_subset]
  exact ⟨⟨date_subset instant, by decide⟩, time_subset instant⟩

theorem roomLimit_lt_lengthLimit : roomLimit < lengthLimit := by
  decide

theorem copies_of_le {count : Nat} (room : count ≤ roomLimit) (character : Char) :
    copies count character = .ok (List.replicate count character) := by
  have size : ¬ lengthLimit ≤ count :=
    Nat.not_le.mpr (Nat.lt_of_le_of_lt room roomLimit_lt_lengthLimit)
  rw [copies, if_neg size, if_neg (Nat.not_lt.mpr room)]

/-- Copies are there if there is room for them.  How the others are refused depends on whether
their number is a size at all. -/
theorem copies_cases (count : Nat) (character : Char) :
    (count ≤ roomLimit ∧ copies count character = .ok (List.replicate count character)) ∨
      (roomLimit < count ∧ count < lengthLimit ∧ copies count character = .error .outOfMemory) ∨
      (lengthLimit ≤ count ∧ copies count character = .error .lengthTooLarge) := by
  rcases Nat.lt_or_ge roomLimit count with full | room
  · unfold copies
    split
    case isTrue large => exact .inr (.inr ⟨large, rfl⟩)
    case isFalse small => exact .inr (.inl ⟨full, Nat.lt_of_not_le small, rfl⟩)
  · exact .inl ⟨room, copies_of_le room character⟩

theorem eq_replicate_of_copies {count : Nat} {character : Char} {text : Text}
    (copied : copies count character = .ok text) : text = List.replicate count character := by
  unfold copies at copied
  split at copied
  · cases copied
  · split at copied
    · cases copied
    · exact (Except.ok.inj copied).symm

/-- The forms of literals other than members of an enumeration. -/
inductive Form : Text → Prop
  | number {text : Text} (known : text ⊆ Decimal.numerals) : Form text
  | stamp {text : Text} (known : text ⊆ stamps) : Form (quote text)
  | escaped (content : Text) : Form (quote (escapeAll content))
  | filled (count : Nat) : Form (quote (List.replicate count 'X'))

theorem Form.closed {literal : Text} (form : Form literal) : Sql.Closed literal := by
  cases form with
  | number known => exact closed_of_numerals known
  | stamp known => exact closed_quote_of_stamps known
  | escaped content => exact closed_quote (enclosed_escapeAll content)
  | filled count =>
      refine closed_quote (.of_plain fun character member => ?_)
      rw [List.eq_of_mem_replicate member]
      decide

end Literal

namespace Generator

open Literal

variable {State : Type u} (generator : Generator State)

/-! ## Forms of literals -/

theorem digits_subset (count : Nat) (state : State) :
    (generator.digits count state).1 ⊆ Decimal.numerals := by
  induction count generalizing state with
  | zero => exact List.nil_subset _
  | succ count induction =>
      simp only [digits]
      exact List.append_subset.mpr ⟨Decimal.integer_subset _, induction _⟩

theorem form_character {length : Nat} {state after : State} {literal : Text}
    (written : generator.character length state = (.ok literal, after)) : Form literal := by
  simp only [character] at written
  split at written
  · split at written
    · cases written
    · cases written
      exact .escaped _
  · cases copied : copies length 'X' with
    | error fault =>
        rw [copied] at written
        cases written
    | ok text =>
        rw [copied] at written
        cases written
        rw [eq_replicate_of_copies copied]
        exact .filled length

theorem form_integer (range : IntegerRange) (state : State) :
    Form (generator.integer range state).1 := by
  simp only [integer]
  split
  · exact .number (Decimal.integer_subset _)
  · exact .number (Decimal.integer_subset _)

theorem form_bigInteger (state : State) : Form (generator.bigInteger state).1 := by
  have fixed : bigFixed ⊆ Decimal.numerals := by decide
  simp only [bigInteger]
  split
  · exact .number (generator.digits_subset _ _)
  · exact .number fixed

theorem form_decimal {length : Nat} {state after : State} {literal : Text}
    (written : generator.decimal length state = (.ok literal, after)) : Form literal := by
  simp only [decimal] at written
  split at written
  · split at written
    · cases written
    · cases written
      exact .stamp (stamps_of_numerals (List.append_subset.mpr
        ⟨List.append_subset.mpr ⟨Decimal.integer_subset _, by decide⟩, Decimal.integer_subset _⟩))
  · cases copied : copies (decimalWidth length) '9' with
    | error fault =>
        rw [copied] at written
        cases written
    | ok text =>
        rw [copied] at written
        cases written
        rw [eq_replicate_of_copies copied]
        exact .stamp (stamps_of_numerals (List.append_subset.mpr
          ⟨List.replicate_subset.mpr (.inr (by decide)), by decide⟩))

theorem form_double {length : Nat} {state after : State} {literal : Text}
    (written : generator.double length state = (.ok literal, after)) : Form literal := by
  simp only [double] at written
  split at written
  · cases written
  · cases written
    exact .number (Decimal.ofFloat_subset _)

/-- Apart from the members of enumerations, whatever is generated is of one of the forms. -/
theorem form_literal {column : Column} {category : Category}
    (other : category ≠ .enumeration) {state after : State} {literal : Text}
    (written : generator.literal column category state = (.ok literal, after)) :
    Form literal := by
  cases category <;> simp only [Generator.literal] at written
  case character => exact generator.form_character written
  case decimal => exact generator.form_decimal written
  case float64 => exact generator.form_double written
  case enumeration => exact absurd rfl other
  all_goals cases written
  case int8 | int16 | int24 | int32 => exact generator.form_integer _ _
  case int64 => exact generator.form_bigInteger _
  case float32 => exact .number (Decimal.ofFloat_subset _)
  case date => exact .stamp (date_subset _)
  case datetime => exact .stamp (dateTime_subset _)
  case time => exact .stamp (time_subset _)

/-- A supported column is given a literal of its category. -/
theorem generate_eq_ok {column : Column} {category : Category}
    (known : column.category = some category) {state after : State} {written : Option Text}
    (generated : generator.generate column state = (.ok written, after)) :
    ∃ literal, written = some literal ∧
      generator.literal column category state = (.ok literal, after) := by
  simp only [generate, known] at generated
  rcases drawn : generator.literal column category state with ⟨result, next⟩
  rw [drawn] at generated
  cases result with
  | error fault => cases generated
  | ok literal =>
      cases generated
      exact ⟨literal, rfl, rfl⟩

theorem form_generate {column : Column} (other : column.category ≠ some .enumeration)
    {state after : State} {literal : Text}
    (generated : generator.generate column state = (.ok (some literal), after)) :
    Form literal := by
  cases known : column.category with
  | none => simp [generate, known] at generated
  | some category =>
      rcases generator.generate_eq_ok known generated with ⟨text, same, written⟩
      cases same
      exact generator.form_literal (fun enumeration => other (by rw [known, enumeration])) written

/-! ## Rows -/

/-- A row holds one literal for each column, each of them generated in the state that the
one before it left. -/
inductive FillsRow : List Column → State → List Text → State → Prop
  | done {state : State} : FillsRow [] state [] state
  | filled {column : Column} {columns : List Column} {before between after : State}
      {literal : Text} {literals : List Text}
      (generated : generator.generate column before = (.ok (some literal), between))
      (later : FillsRow columns between literals after) :
      FillsRow (column :: columns) before (literal :: literals) after

inductive FillsRows (columns : List Column) : Nat → State → List (List Text) → State → Prop
  | done {state : State} : FillsRows columns 0 state [] state
  | filled {count : Nat} {before between after : State} {row : List Text}
      {rows : List (List Text)} (filled : generator.FillsRow columns before row between)
      (later : FillsRows columns count between rows after) :
      FillsRows columns (count + 1) before (row :: rows) after

theorem fillsRow_of_row {columns : List Column}
    (supported : ∀ column ∈ columns, column.isSupported = true) {state after : State}
    {literals : List Text} (written : generator.row columns state = (.ok literals, after)) :
    generator.FillsRow columns state literals after := by
  induction columns generalizing state literals with
  | nil =>
      cases written
      exact .done
  | cons column columns induction =>
      simp only [row] at written
      rcases drawn : generator.generate column state with ⟨result, next⟩
      simp only [drawn] at written
      cases result with
      | error fault => cases written
      | ok literal =>
          rcases Option.isSome_iff_exists.mp (supported column List.mem_cons_self) with
            ⟨category, known⟩
          rcases generator.generate_eq_ok known drawn with ⟨text, rfl, -⟩
          rcases later : generator.row columns next with ⟨result, last⟩
          simp only [later] at written
          cases result with
          | error fault => cases written
          | ok literals =>
              cases written
              exact .filled drawn (induction
                (fun other member => supported other (List.mem_cons_of_mem _ member)) later)

theorem fillsRows_of_rows {columns : List Column}
    (supported : ∀ column ∈ columns, column.isSupported = true) {count : Nat}
    {state after : State} {rows : List (List Text)}
    (written : generator.rows columns count state = (.ok rows, after)) :
    generator.FillsRows columns count state rows after := by
  induction count generalizing state rows with
  | zero =>
      cases written
      exact .done
  | succ count induction =>
      simp only [Generator.rows] at written
      rcases drawn : generator.row columns state with ⟨result, next⟩
      simp only [drawn] at written
      cases result with
      | error fault => cases written
      | ok first =>
          rcases later : generator.rows columns count next with ⟨result, last⟩
          simp only [later] at written
          cases result with
          | error fault => cases written
          | ok others =>
              cases written
              exact .filled (generator.fillsRow_of_row supported drawn) (induction later)

variable {generator}

/-- What holds of every literal of the columns holds of all literals of a row. -/
theorem FillsRow.forall_mem {columns : List Column} {before after : State} {literals : List Text}
    (fills : generator.FillsRow columns before literals after) {property : Text → Prop}
    (each : ∀ column ∈ columns, ∀ {state next : State} {literal : Text},
      generator.generate column state = (.ok (some literal), next) → property literal) :
    ∀ literal ∈ literals, property literal := by
  induction fills with
  | done => simp
  | filled generated _ induction =>
      rw [List.forall_mem_cons] at each ⊢
      exact ⟨each.1 generated, induction each.2⟩

theorem FillsRow.length_eq {columns : List Column} {before after : State}
    {literals : List Text} (fills : generator.FillsRow columns before literals after) :
    literals.length = columns.length := by
  induction fills with
  | done => rfl
  | filled _ _ induction => rw [List.length_cons, List.length_cons, induction]

theorem FillsRows.forall_mem {columns : List Column} {count : Nat} {before after : State}
    {rows : List (List Text)} (fills : generator.FillsRows columns count before rows after)
    {property : Text → Prop}
    (each : ∀ column ∈ columns, ∀ {state next : State} {literal : Text},
      generator.generate column state = (.ok (some literal), next) → property literal) :
    ∀ row ∈ rows, row.length = columns.length ∧ ∀ literal ∈ row, property literal := by
  induction fills with
  | done => simp
  | filled filled _ induction =>
      rw [List.forall_mem_cons]
      exact ⟨⟨filled.length_eq, filled.forall_mem each⟩, induction⟩

theorem FillsRows.closed {columns : List Column} {count : Nat} {before after : State}
    {rows : List (List Text)} (fills : generator.FillsRows columns count before rows after)
    (other : ∀ column ∈ columns, column.category ≠ some .enumeration) :
    ∀ row ∈ rows, row.length = columns.length ∧ ∀ literal ∈ row, Sql.Closed literal :=
  fills.forall_mem fun column member _ _ _ generated =>
    (generator.form_generate (other column member) generated).closed

theorem FillsRows.length_eq {columns : List Column} {count : Nat} {before after : State}
    {rows : List (List Text)} (fills : generator.FillsRows columns count before rows after) :
    rows.length = count := by
  induction fills with
  | done => rfl
  | filled _ _ induction => rw [List.length_cons, induction]

theorem FillsRow.row_eq {columns : List Column} {before after : State} {literals : List Text}
    (fills : generator.FillsRow columns before literals after) :
    generator.row columns before = (.ok literals, after) := by
  induction fills with
  | done => rfl
  | filled generated _ induction =>
      simp only [row, generated, induction]
      rfl

theorem FillsRows.rows_eq {columns : List Column} {count : Nat} {before after : State}
    {written : List (List Text)} (fills : generator.FillsRows columns count before written after) :
    generator.rows columns count before = (.ok written, after) := by
  induction fills with
  | done => rfl
  | filled filled _ induction => simp only [rows, filled.row_eq, induction]

/-- A row set is generated exactly by filling its rows, under the names of the supported
columns. -/
theorem rowSet_eq_ok_iff {table : Table} {count : Nat} {before after : State}
    {rowSet : RowSet} :
    generator.rowSet table count before = (.ok rowSet, after) ↔
      rowSet.table = table.name ∧ rowSet.fields = table.generated.map (·.quotedName) ∧
        generator.FillsRows table.generated count before rowSet.rows after := by
  constructor
  · intro generated
    simp only [Generator.rowSet] at generated
    rcases drawn : generator.rows table.generated count before with ⟨result, last⟩
    rw [drawn] at generated
    cases result with
    | error fault => cases generated
    | ok written =>
        cases generated
        exact ⟨rfl, rfl, generator.fillsRows_of_rows
          (fun column member => (List.mem_filter.mp member).2) drawn⟩
  · rcases rowSet with ⟨name, fields, written⟩
    rintro ⟨rfl, rfl, fills⟩
    simp only [Generator.rowSet, fills.rows_eq]

end Generator

end SchemaSeed
