import SchemaSeed.Sql.Group

/-! Text whose quotes and parentheses are closed.  A scan passes through such text and
stands afterwards where it stood before, so it neither ends a group around it nor is
split inside its groups. -/

namespace SchemaSeed

namespace Sql

/-- Plain characters, quoted text and groups.  Commas outside of quotes and groups are
allowed where `commas` says so. -/
inductive Nested : (commas : Bool) → Text → Prop
  | nil {commas : Bool} : Nested commas []
  | plain {commas : Bool} {character : Char} (unquoted : isQuote character = false)
      (noOpening : character ≠ '(') (noClosing : character ≠ ')')
      (separates : character = ',' → commas = true) : Nested commas [character]
  | quoted {commas : Bool} {quote : Char} {content : Text} (opens : isQuote quote = true)
      (inside : ∀ character ∈ content, character ≠ quote ∧ character ≠ '\\') :
      Nested commas (quote :: content ++ [quote])
  | group {commas : Bool} {inner : Text} (nested : Nested true inner) :
      Nested commas ('(' :: inner ++ [')'])
  | append {commas : Bool} {left right : Text} (first : Nested commas left)
      (second : Nested commas right) : Nested commas (left ++ right)

namespace Nested

theorem cons {commas : Bool} {character : Char} {text : Text}
    (unquoted : isQuote character = false) (noOpening : character ≠ '(')
    (noClosing : character ≠ ')') (separates : character = ',' → commas = true)
    (rest : Nested commas text) : Nested commas (character :: text) :=
  .append (.plain unquoted noOpening noClosing separates) rest

/-- Text without quotes and parentheses. -/
theorem of_plain {commas : Bool} {text : Text}
    (plain : ∀ character ∈ text, isQuote character = false ∧ character ≠ '(' ∧
      character ≠ ')' ∧ (character = ',' → commas = true)) : Nested commas text := by
  induction text with
  | nil => exact .nil
  | cons character text induction =>
      rcases plain character List.mem_cons_self with ⟨unquoted, noOpening, noClosing, separates⟩
      exact .cons unquoted noOpening noClosing separates
        (induction fun later member => plain later (List.mem_cons_of_mem _ member))

theorem mono {text : Text} (nested : Nested false text) : Nested true text := by
  generalize strict : false = commas at nested
  induction nested with
  | nil => exact .nil
  | plain unquoted noOpening noClosing separates =>
      exact .plain unquoted noOpening noClosing fun _ => rfl
  | quoted opens inside => exact .quoted opens inside
  | group nested => exact .group nested
  | append first second inductionFirst inductionSecond =>
      exact .append (inductionFirst strict) (inductionSecond strict)

end Nested

/-! ## The scan -/

theorem not_parenthesis_of_isQuote {character : Char} (quote : isQuote character = true) :
    character ≠ '(' ∧ character ≠ ')' := by
  constructor <;> rintro rfl <;> cases quote

theorem step_open_quote {quote : Char} (opens : isQuote quote = true) (depth : Nat) :
    Scan.step ⟨.plain, depth⟩ quote = ⟨.quoted quote false, depth⟩ := by
  rcases not_parenthesis_of_isQuote opens with ⟨noOpening, noClosing⟩
  simp [Scan.step, Mode.step, noOpening, noClosing, opens]

theorem step_quoted {quote character : Char} (different : character ≠ quote)
    (noEscape : character ≠ '\\') (depth : Nat) :
    Scan.step ⟨.quoted quote false, depth⟩ character = ⟨.quoted quote false, depth⟩ := by
  simp [Scan.step, Mode.step, different, noEscape]

theorem step_close_quote {quote : Char} (opens : isQuote quote = true) (depth : Nat) :
    Scan.step ⟨.quoted quote false, depth⟩ quote = ⟨.plain, depth⟩ := by
  have noEscape : quote ≠ '\\' := by
    rintro rfl
    cases opens
  simp [Scan.step, Mode.step, noEscape]

theorem step_plain {character : Char} (unquoted : isQuote character = false)
    (noOpening : character ≠ '(') (noClosing : character ≠ ')') (depth : Nat) :
    Scan.step ⟨.plain, depth⟩ character = ⟨.plain, depth⟩ := by
  simp [Scan.step, Mode.step, unquoted, noOpening, noClosing]

/-! ## Quotes alone -/

namespace Mode

def run (mode : Mode) (text : Text) : Mode :=
  text.foldl step mode

@[simp] theorem run_nil (mode : Mode) : mode.run [] = mode := rfl

@[simp] theorem run_cons (mode : Mode) (character : Char) (text : Text) :
    mode.run (character :: text) = (mode.step character).run text := rfl

@[simp] theorem run_append (mode : Mode) (left right : Text) :
    mode.run (left ++ right) = (mode.run left).run right := by
  simp [run]

end Mode

theorem mode_step (scan : Scan) (character : Char) :
    (scan.step character).mode = scan.mode.step character := by
  rcases scan with ⟨mode, depth⟩
  cases mode with
  | quoted => rfl
  | plain =>
      simp only [Scan.step]
      split
      · rename_i opening
        rw [opening]
        rfl
      · split
        · rename_i closing
          rw [closing]
          rfl
        · rfl

/-- The mode of a scan does not depend on its depth. -/
theorem mode_run (scan : Scan) (text : Text) : (scan.run text).mode = scan.mode.run text := by
  induction text generalizing scan with
  | nil => rfl
  | cons character text induction => rw [Scan.run_cons, induction, mode_step, Mode.run_cons]

/-! ## The search for a group -/

/-- A step that keeps the depth keeps the group open, or not yet found. -/
theorem searchFrom_cons_of_depth {scan : Scan} {character : Char} {opening : Option Nat}
    (kept : (scan.step character).depth = scan.depth)
    (consistent : opening = none ↔ scan.depth = 0) (position : Nat) (rest : Text) :
    searchFrom scan opening position (character :: rest) =
      searchFrom (scan.step character) opening (position + 1) rest := by
  cases opening with
  | none =>
      have outside : scan.depth = 0 := consistent.mp rfl
      simp only [searchFrom, kept, outside, if_true]
  | some place =>
      have inside : scan.depth ≠ 0 := fun zero => nomatch consistent.mpr zero
      simp only [searchFrom, kept, inside, if_false]

theorem searchFrom_quoted {quote : Char} {content : Text} (opens : isQuote quote = true)
    (inside : ∀ character ∈ content, character ≠ quote ∧ character ≠ '\\')
    {depth : Nat} {opening : Option Nat} (consistent : opening = none ↔ depth = 0)
    (position : Nat) (rest : Text) :
    searchFrom ⟨.plain, depth⟩ opening position (quote :: content ++ quote :: rest) =
      searchFrom ⟨.plain, depth⟩ opening (position + content.length + 2) rest := by
  have content : ∀ (content : Text) (place : Nat),
      (∀ character ∈ content, character ≠ quote ∧ character ≠ '\\') →
      searchFrom ⟨.quoted quote false, depth⟩ opening place (content ++ quote :: rest) =
        searchFrom ⟨.plain, depth⟩ opening (place + content.length + 1) rest := by
    intro content
    induction content with
    | nil =>
        intro place _
        rw [List.nil_append, searchFrom_cons_of_depth (by rw [step_close_quote opens]) consistent,
          step_close_quote opens]
        rfl
    | cons character content induction =>
        intro place inside
        rcases inside character List.mem_cons_self with ⟨different, noEscape⟩
        rw [List.cons_append, searchFrom_cons_of_depth
          (by rw [step_quoted different noEscape]) consistent, step_quoted different noEscape,
          induction _ fun later member => inside later (List.mem_cons_of_mem _ member)]
        congr 1
        simp only [List.length_cons]
        omega
  rw [List.cons_append, searchFrom_cons_of_depth (by rw [step_open_quote opens]) consistent,
    step_open_quote opens, content _ _ inside]
  congr 1
  omega

theorem searchFrom_plain {part : Text}
    (plain : ∀ character ∈ part, isQuote character = false ∧ character ≠ '(' ∧ character ≠ ')')
    {depth : Nat} {opening : Option Nat} (consistent : opening = none ↔ depth = 0)
    (position : Nat) (rest : Text) :
    searchFrom ⟨.plain, depth⟩ opening position (part ++ rest) =
      searchFrom ⟨.plain, depth⟩ opening (position + part.length) rest := by
  induction part generalizing position with
  | nil => rfl
  | cons character part induction =>
      rcases plain character List.mem_cons_self with ⟨unquoted, noOpening, noClosing⟩
      have step := step_plain unquoted noOpening noClosing depth
      rw [List.cons_append, searchFrom_cons_of_depth (by rw [step]) consistent, step,
        induction fun later member => plain later (List.mem_cons_of_mem _ member)]
      congr 1
      simp only [List.length_cons]
      omega

/-- The search goes through nested text inside the group that it has found. -/
theorem searchFrom_nested {commas : Bool} {part : Text} (nested : Nested commas part)
    (depth place position : Nat) (rest : Text) :
    searchFrom ⟨.plain, depth + 1⟩ (some place) position (part ++ rest) =
      searchFrom ⟨.plain, depth + 1⟩ (some place) (position + part.length) rest := by
  induction nested generalizing depth position rest with
  | nil => rfl
  | plain unquoted noOpening noClosing separates =>
      exact searchFrom_plain (by simpa using ⟨unquoted, noOpening, noClosing⟩) (by simp) position
        rest
  | @quoted _ quote content opens inside =>
      have quoted := @searchFrom_quoted quote content opens inside (depth + 1) (some place)
        (by simp) position rest
      simpa [Nat.add_assoc] using quoted
  | @group _ inner nested induction =>
      have opened : searchFrom ⟨.plain, depth + 1⟩ (some place) position
          ('(' :: (inner ++ ')' :: rest)) =
            searchFrom ⟨.plain, depth + 2⟩ (some place) (position + 1) (inner ++ ')' :: rest) :=
        rfl
      have closed : searchFrom ⟨.plain, depth + 2⟩ (some place) (position + 1 + inner.length)
          (')' :: rest) =
            searchFrom ⟨.plain, depth + 1⟩ (some place) (position + 1 + inner.length + 1) rest :=
        rfl
      have whole : '(' :: inner ++ [')'] ++ rest = '(' :: (inner ++ ')' :: rest) := by simp
      rw [whole, opened, induction (depth + 1), closed]
      congr 1
      simp only [List.length_append, List.length_cons, List.length_nil]
      omega
  | append first second inductionFirst inductionSecond =>
      rw [List.append_assoc, inductionFirst, inductionSecond, List.length_append, Nat.add_assoc]

/-- A group is found from where it opens to where it closes. -/
theorem searchFrom_group {inner : Text} (nested : Nested true inner) (position : Nat)
    (rest : Text) :
    searchFrom Scan.start none position ('(' :: inner ++ ')' :: rest) =
      .found ⟨position, position + 1 + inner.length⟩ := by
  have opened : searchFrom Scan.start none position ('(' :: (inner ++ ')' :: rest)) =
      searchFrom ⟨.plain, 0 + 1⟩ (some position) (position + 1) (inner ++ ')' :: rest) := rfl
  rw [List.cons_append, opened, searchFrom_nested nested]
  rfl

theorem slice_group (lead inner rest : Text) :
    Text.slice (lead ++ ('(' :: inner ++ ')' :: rest)) (lead.length + 1)
      (lead.length + 1 + inner.length) = inner := by
  rw [Text.slice, List.drop_append, List.drop_of_length_le (Nat.le_succ _)]
  simp

/-! ## Lists -/

theorem step_of_not_separating {scan : Scan} {character : Char}
    (kept : scan.isTop = true → character ≠ ',') (finished : List Text) (current : Text) :
    Parts.step "," ⟨scan, finished, current⟩ character =
      ⟨scan.step character, finished, character :: current⟩ := by
  have noSeparator : Parts.separates "," scan character = false := by
    cases top : scan.isTop with
    | false => simp [Parts.separates, top]
    | true =>
        have different : character ≠ ',' := kept top
        simp [Parts.separates, different.symm]
  simp only [Parts.step, noSeparator, Bool.false_eq_true, if_false]

theorem foldl_step_quoted {quote : Char} {content : Text} (opens : isQuote quote = true)
    (inside : ∀ character ∈ content, character ≠ quote ∧ character ≠ '\\') (depth : Nat)
    (finished : List Text) (current : Text) :
    (quote :: content ++ [quote]).foldl (Parts.step ",") ⟨⟨.plain, depth⟩, finished, current⟩ =
      ⟨⟨.plain, depth⟩, finished, (quote :: content ++ [quote]).reverse ++ current⟩ := by
  have content : ∀ (content current : Text),
      (∀ character ∈ content, character ≠ quote ∧ character ≠ '\\') →
      (content ++ [quote]).foldl (Parts.step ",")
          ⟨⟨.quoted quote false, depth⟩, finished, current⟩ =
        ⟨⟨.plain, depth⟩, finished, (content ++ [quote]).reverse ++ current⟩ := by
    intro content
    induction content with
    | nil =>
        intro current _
        rw [List.nil_append, List.foldl_cons,
          step_of_not_separating (fun top => by cases top), step_close_quote opens]
        rfl
    | cons character content induction =>
        intro current inside
        rcases inside character List.mem_cons_self with ⟨different, noEscape⟩
        rw [List.cons_append, List.foldl_cons,
          step_of_not_separating (fun top => by cases top), step_quoted different noEscape,
          induction _ fun later member => inside later (List.mem_cons_of_mem _ member)]
        simp
  have noComma : quote ≠ ',' := by
    rintro rfl
    cases opens
  rw [List.cons_append, List.foldl_cons, step_of_not_separating (fun _ => noComma),
    step_open_quote opens, content _ _ inside]
  simp

/-- Nested text is read into the current part as it is: a comma in it either is not
allowed or stands inside a group. -/
theorem foldl_step_nested {commas : Bool} {part : Text} (nested : Nested commas part)
    {depth : Nat} (whole : commas = true → depth ≠ 0) (finished : List Text) (current : Text) :
    part.foldl (Parts.step ",") ⟨⟨.plain, depth⟩, finished, current⟩ =
      ⟨⟨.plain, depth⟩, finished, part.reverse ++ current⟩ := by
  induction nested generalizing depth current with
  | nil => rfl
  | @plain commas character unquoted noOpening noClosing separates =>
      have kept : Scan.isTop ⟨.plain, depth⟩ = true → character ≠ ',' := by
        rintro top rfl
        exact whole (separates rfl) (by simpa [Scan.isTop] using top)
      rw [List.foldl_cons, step_of_not_separating kept,
        step_plain unquoted noOpening noClosing]
      rfl
  | quoted opens inside => exact foldl_step_quoted opens inside depth finished current
  | @group _ inner nested induction =>
      have opened : Parts.step "," ⟨⟨.plain, depth⟩, finished, current⟩ '(' =
          ⟨⟨.plain, depth + 1⟩, finished, '(' :: current⟩ :=
        step_of_not_separating (fun _ => by decide) finished current
      have closed : Parts.step "," ⟨⟨.plain, depth + 1⟩, finished, inner.reverse ++ '(' :: current⟩
          ')' = ⟨⟨.plain, depth⟩, finished, ')' :: (inner.reverse ++ '(' :: current)⟩ :=
        step_of_not_separating (fun _ => by decide) finished _
      rw [List.cons_append, List.foldl_cons, opened, List.foldl_append,
        induction fun _ => Nat.succ_ne_zero depth, List.foldl_cons, closed]
      simp
  | append first second inductionFirst inductionSecond =>
      rw [List.foldl_append, inductionFirst whole, inductionSecond whole]
      simp

theorem step_separator (finished : List Text) (current : Text) :
    Parts.step "," ⟨Scan.start, finished, current⟩ ',' =
      ⟨Scan.start, current.reverse :: finished, []⟩ := rfl

theorem foldl_step_join {first : Text} {rest : List Text}
    (nested : ∀ part ∈ first :: rest, Nested false part) (finished : List Text) :
    ((Text.join "," (first :: rest)).foldl (Parts.step ",") ⟨Scan.start, finished, []⟩).scan =
        Scan.start ∧
      ((Text.join "," (first :: rest)).foldl (Parts.step ",")
        ⟨Scan.start, finished, []⟩).toList = finished.reverse ++ first :: rest := by
  induction rest generalizing first finished with
  | nil =>
      have whole := @foldl_step_nested false first (nested first List.mem_cons_self) 0
        (fun impossible => nomatch impossible) finished []
      rw [Text.join_singleton, Scan.start, whole]
      simp [Parts.toList]
  | cons second rest induction =>
      have whole := @foldl_step_nested false first (nested first List.mem_cons_self) 0
        (fun impossible => nomatch impossible) finished []
      have between : (first ++ ",".toList).foldl (Parts.step ",") ⟨Scan.start, finished, []⟩ =
          ⟨Scan.start, first :: finished, []⟩ := by
        rw [List.foldl_append, Scan.start, whole]
        have separated := step_separator finished first.reverse
        rw [List.reverse_reverse] at separated
        rw [List.append_nil]
        exact separated
      rw [Text.join_cons_cons, List.foldl_append, between]
      have read := induction (fun part member => nested part (List.mem_cons_of_mem _ member))
        (first :: finished)
      simpa using read

theorem nested_join {first : Text} {rest : List Text}
    (nested : ∀ part ∈ first :: rest, Nested false part) :
    Nested true (Text.join "," (first :: rest)) := by
  induction rest generalizing first with
  | nil =>
      rw [Text.join_singleton]
      exact (nested first List.mem_cons_self).mono
  | cons second rest induction =>
      rw [Text.join_cons_cons]
      have comma : Nested true ",".toList := .of_plain (by decide)
      exact .append (.append (nested first List.mem_cons_self).mono comma)
        (induction fun part member => nested part (List.mem_cons_of_mem _ member))

/-- Joining with commas is undone by splitting. -/
theorem splitTop_join {first : Text} {rest : List Text}
    (nested : ∀ part ∈ first :: rest, Nested false part) :
    splitTop "," (Text.join "," (first :: rest)) = .ok (first :: rest) := by
  rcases foldl_step_join nested [] with ⟨scan, parts⟩
  rw [← Parts.empty] at scan parts
  simp only [splitTop, scan, parts]
  rfl

end Sql

end SchemaSeed
