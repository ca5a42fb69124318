import SchemaSeed.Proofs.Json.Numerals
import SchemaSeed.Proofs.Json.Strings
import SchemaSeed.Proofs.Text.Words

/-! Values read back from JSON.  The reader follows the grammar: gaps may stand around everything,
names are strings, and nothing may follow the value.  Of what it accepts beside the standard,
numbers that are none and infinities, a line of ours makes use.  Every value is found again from
its line. -/

namespace SchemaSeed

namespace Json

/-! ## The reader -/

inductive Value where
  | null
  | truth (value : Bool)
  | number (value : Number)
  | notANumber
  | infinity (negative : Bool)
  | text (value : Text)
  | list (items : List Value)
  | object (fields : List (Text × Value))

def isGap (character : Char) : Bool :=
  [' ', '\t', '\n', '\r'].elem character

def skip (text : Text) : Text :=
  text.dropWhile isGap

/-- The words that stand for values. -/
def words : List (Text × Value) := [
  ("null", .null), ("true", .truth true), ("false", .truth false), ("NaN", .notANumber),
  ("Infinity", .infinity false), ("-Infinity", .infinity true)]

/-- A number, or one of the words. -/
def scalar? (text : Text) : Option (Value × Text) :=
  match number? (text.takeWhile isNumeral) with
  | some number => some (.number number, text.dropWhile isNumeral)
  | none => words.findSome? fun (word, value) =>
      (Text.after? word text).map fun rest => (value, rest)

section Sequences

variable {α : Type} (element : Text → Option (α × Text)) (closing : Char)

/-- Elements with commas between them, at least one, and the text behind the closing sign. -/
def elements? : (fuel : Nat) → Text → Option (List α × Text)
  | 0, _ => none
  | fuel + 1, text =>
      (element text).bind fun (first, behind) =>
        match skip behind with
        | ',' :: rest => (elements? fuel rest).map fun (later, after) => (first :: later, after)
        | sign :: rest => if sign = closing then some ([first], rest) else none
        | [] => none

def sequence? (fuel : Nat) (text : Text) : Option (List α × Text) :=
  match skip text with
  | sign :: rest =>
      if sign = closing then some ([], rest) else elements? element closing fuel (sign :: rest)
  | [] => none

end Sequences

/-- A name with its value. -/
def field? (element : Text → Option (Value × Text)) (fuel : Nat) (text : Text) :
    Option ((Text × Value) × Text) :=
  match skip text with
  | '"' :: inside =>
      (characters? fuel inside).bind fun (name, behind) =>
        match skip behind with
        | ':' :: rest => (element rest).map fun (value, after) => ((name, value), after)
        | _ => none
  | _ => none

def value? : (fuel : Nat) → Text → Option (Value × Text)
  | 0, _ => none
  | fuel + 1, text =>
      match skip text with
      | '"' :: inside => (characters? fuel inside).map fun (value, rest) => (.text value, rest)
      | '[' :: inside =>
          (sequence? (value? fuel) ']' fuel inside).map fun (items, rest) => (.list items, rest)
      | '\x7b' :: inside =>
          (sequence? (field? (value? fuel) fuel) '\x7d' fuel inside).map fun (fields, rest) =>
            (.object fields, rest)
      | other => scalar? other

/-- The value of a whole text. -/
def read? (text : Text) : Option Value :=
  match value? text.length text with
  | some (value, rest) => if (skip rest).isEmpty then some value else none
  | none => none

/-! ## Meaning -/

mutual
/-- What is read is the value that was written; of a double it is a decimal nearest to it, and
of a value that JSON has no form for it is the text. -/
inductive Denotes : Value → Datum → Prop
  | null : Denotes .null .null
  | truth (value : Bool) : Denotes (.truth value) (.truth value)
  | integer (value : Int) : Denotes (.number (.whole value)) (.integer value)
  | finite {value : Float} {parts : Binary64} (known : Binary64.ofFloat? value = some parts)
      {magnitude : ℚ} (nearest : parts.NearestTo magnitude) :
      Denotes (.number (.decimal parts.negative magnitude)) (.real value)
  | notANumber {value : Float} (unknown : Binary64.ofFloat? value = none)
      (none : value.isNaN = true) : Denotes .notANumber (.real value)
  | infinity {value : Float} (unknown : Binary64.ofFloat? value = none)
      (number : value.isNaN = false) : Denotes (.infinity (value < 0)) (.real value)
  | text (value : Text) : Denotes (.text value) (.text value)
  | list {values : List Value} {items : List Datum} (each : DenotesItems values items) :
      Denotes (.list values) (.list items)
  | object {values : List (Text × Value)} {fields : List (Text × Datum)}
      (each : DenotesFields values fields) : Denotes (.object values) (.object fields)
  | thing (typeName plain display : Text) : Denotes (.text plain) (.thing typeName plain display)

inductive DenotesItems : List Value → List Datum → Prop
  | nil : DenotesItems [] []
  | cons {value : Value} {item : Datum} {values : List Value} {items : List Datum}
      (first : Denotes value item) (rest : DenotesItems values items) :
      DenotesItems (value :: values) (item :: items)

/-- Names and their order are the same. -/
inductive DenotesFields : List (Text × Value) → List (Text × Datum) → Prop
  | nil : DenotesFields [] []
  | cons {value : Value} {datum : Datum} {values : List (Text × Value)}
      {fields : List (Text × Datum)} (name : Text) (first : Denotes value datum)
      (rest : DenotesFields values fields) :
      DenotesFields ((name, value) :: values) ((name, datum) :: fields)
end

/-! ## Scalars -/

theorem scalar?_number {token : Text} {number : Number} (read : number? token = some number)
    {rest : Text} (stops : Stops isNumeral rest) :
    scalar? (token ++ rest) = some (.number number, rest) := by
  rcases split_of_stops (isNumeral_of_number? read) stops with ⟨taken, dropped⟩
  rw [scalar?, taken, dropped, read]

/-- The signs with which numbers and words start. -/
def leading : Text :=
  Decimal.figures ++ ['+', '-', '.', 'e', 'E', 'n', 't', 'f', 'N', 'I']

theorem mem_leading_of_number? {token : Text} {number : Number}
    (read : number? token = some number) :
    ∃ first rest, token = first :: rest ∧ first ∈ leading := by
  cases token with
  | nil => cases read
  | cons first rest =>
      refine ⟨first, rest, rfl, ?_⟩
      have numeral := isNumeral_of_number? read first List.mem_cons_self
      simp only [isNumeral, isFigure, Bool.or_eq_true, List.elem_eq_mem, decide_eq_true_eq]
        at numeral
      rcases numeral with figure | sign
      · exact List.mem_append_left _ figure
      · exact List.mem_append_right _ (List.mem_append_left ['n', 't', 'f', 'N', 'I'] sign)

theorem value?_scalar {first : Char} (leads : first ∈ leading) (more : Text) (fuel : Nat) :
    value? (fuel + 1) (first :: more) = scalar? (first :: more) := by
  have known : ∀ sign ∈ leading,
      isGap sign = false ∧ sign ≠ '"' ∧ sign ≠ '[' ∧ sign ≠ '\x7b' := by decide
  rcases known first leads with ⟨solid, quote, bracket, brace⟩
  have kept : skip (first :: more) = first :: more := by simp [skip, solid]
  rw [value?, kept]
  split
  · rename_i same
    exact absurd (List.cons_eq_cons.mp same).1 quote
  · rename_i same
    exact absurd (List.cons_eq_cons.mp same).1 bracket
  · rename_i same
    exact absurd (List.cons_eq_cons.mp same).1 brace
  · rfl

/-! ## Sequences -/

/-- In front of whatever does not go on a number the text is read as the value, also behind a
space. -/
def ReadsAs {α : Type} (element : Text → Option (α × Text)) (text : Text) (value : α) : Prop :=
  ∀ rest, Stops isNumeral rest → element (text ++ rest) = some (value, rest) ∧
    element (' ' :: (text ++ rest)) = some (value, rest)

theorem skip_of_solid {first : Char} (solid : isGap first = false) (rest : Text) :
    skip (first :: rest) = first :: rest := by
  simp [skip, solid]

section Sequences

variable {α : Type} {element : Text → Option (α × Text)} {closing : Char}

theorem elements?_last (other : closing ≠ ',') (solid : isGap closing = false) {text : Text}
    {value : α} {rest : Text} (read : element text = some (value, closing :: rest)) (fuel : Nat) :
    elements? element closing (fuel + 1) text = some ([value], rest) := by
  rw [elements?, read, Option.bind_some]
  dsimp only
  rw [skip_of_solid solid]
  split
  · rename_i same
    exact absurd (List.cons_eq_cons.mp same).1 other
  · rename_i same
    cases same
    exact if_pos rfl
  · rename_i same
    cases same

theorem elements?_comma {text : Text} {value : α} {rest : Text}
    (read : element text = some (value, ',' :: rest)) {fuel : Nat} {values : List α} {after : Text}
    (later : elements? element closing fuel rest = some (values, after)) :
    elements? element closing (fuel + 1) text = some (value :: values, after) := by
  have comma : isGap ',' = false := by decide
  rw [elements?, read, Option.bind_some]
  dsimp only
  rw [skip_of_solid comma]
  show (elements? element closing fuel rest).map (fun found => (value :: found.1, found.2)) = _
  rw [later]
  rfl

variable (other : closing ≠ ',') (solid : isGap closing = false)
  (foreign : isNumeral closing = false)

include other solid foreign

theorem elements?_join {first : Text} {texts : List Text} {values : List α}
    (read : List.Forall₂ (ReadsAs element) (first :: texts) values) {fuel : Nat}
    (enough : (first :: texts).length ≤ fuel) (rest : Text) :
    elements? element closing fuel (Text.join ", " (first :: texts) ++ closing :: rest) =
        some (values, rest) ∧
      elements? element closing fuel (' ' :: (Text.join ", " (first :: texts) ++ closing :: rest)) =
        some (values, rest) := by
  induction texts generalizing first values fuel with
  | nil =>
      rcases read with _ | ⟨here, ⟨⟩⟩
      rcases Nat.exists_eq_add_of_lt enough with ⟨more, rfl⟩
      rcases here (closing :: rest) (stops_of_head foreign rest) with ⟨plain, spaced⟩
      rw [Text.join_singleton]
      exact ⟨elements?_last other solid plain _, elements?_last other solid spaced _⟩
  | cons second texts induction =>
      rcases read with _ | ⟨here, later⟩
      cases fuel with
      | zero => cases enough
      | succ fuel =>
          have comma : isNumeral ',' = false := by decide
          rcases induction later (Nat.le_of_succ_le_succ enough) with ⟨-, spaced⟩
          rcases here (',' :: ' ' :: (Text.join ", " (second :: texts) ++ closing :: rest))
            (stops_of_head comma _) with ⟨plainHere, spacedHere⟩
          have shape : Text.join ", " (first :: second :: texts) ++ closing :: rest =
              first ++ ',' :: ' ' :: (Text.join ", " (second :: texts) ++ closing :: rest) := by
            rw [Text.join_cons_cons]
            simp
          rw [shape]
          exact ⟨elements?_comma plainHere spaced, elements?_comma spacedHere spaced⟩

/-- A sequence is read as the values of its elements. -/
theorem sequence?_join {texts : List Text} {values : List α}
    (read : List.Forall₂ (ReadsAs element) texts values)
    (begun : ∀ text ∈ texts, ∃ first more, text = first :: more ∧ isGap first = false ∧
      first ≠ closing) {fuel : Nat} (enough : texts.length ≤ fuel) (rest : Text) :
    sequence? element closing fuel (Text.join ", " texts ++ closing :: rest) =
      some (values, rest) := by
  cases texts with
  | nil =>
      cases read
      rw [Text.join_nil, List.nil_append, sequence?, skip_of_solid solid]
      exact if_pos rfl
  | cons text texts =>
      rcases begun text List.mem_cons_self with ⟨sign, more, rfl, begins, opens⟩
      have shape : ∃ behind, Text.join ", " ((sign :: more) :: texts) ++ closing :: rest =
          sign :: behind := by
        cases texts <;> exact ⟨_, rfl⟩
      have elements := (elements?_join other solid foreign read enough rest).1
      rcases shape with ⟨behind, shape⟩
      rw [shape] at elements ⊢
      rw [sequence?, skip_of_solid begins]
      dsimp only
      rw [if_neg opens, elements]

end Sequences

/-! ## Values -/

theorem value?_space (fuel : Nat) (text : Text) : value? fuel (' ' :: text) = value? fuel text := by
  have skipped : skip (' ' :: text) = skip text := by
    have gap : isGap ' ' = true := by decide
    simp [skip, gap]
  cases fuel with
  | zero => rfl
  | succ fuel => rw [value?, value?, skipped]

theorem field?_space (element : Text → Option (Value × Text)) (fuel : Nat) (text : Text) :
    field? element fuel (' ' :: text) = field? element fuel text := by
  have skipped : skip (' ' :: text) = skip text := by
    have gap : isGap ' ' = true := by decide
    simp [skip, gap]
  rw [field?, field?, skipped]

theorem readsAs_value? {fuel : Nat} {text : Text} {value : Value}
    (read : ∀ rest, Stops isNumeral rest → value? fuel (text ++ rest) = some (value, rest)) :
    ReadsAs (value? fuel) text value := by
  intro rest stops
  rw [value?_space]
  exact ⟨read rest stops, read rest stops⟩

theorem readsAs_number {token : Text} {number : Number} (found : number? token = some number)
    {fuel : Nat} (enough : token.length ≤ fuel) :
    ReadsAs (value? fuel) token (.number number) := by
  rcases mem_leading_of_number? found with ⟨first, more, rfl, leads⟩
  rcases Nat.exists_eq_add_of_lt enough with ⟨extra, rfl⟩
  refine readsAs_value? fun rest stops => ?_
  rw [List.cons_append, value?_scalar leads, ← List.cons_append, scalar?_number found stops]

theorem leading_of_mem_words {pair : Text × Value} (member : pair ∈ words) :
    ∃ first more, pair.1 = first :: more ∧ first ∈ leading := by
  have all : ∀ pair ∈ words, ∃ first more, pair.1 = first :: more ∧ first ∈ leading := by
    simp only [words, List.forall_mem_cons, List.not_mem_nil, false_implies, implies_true, and_true]
    refine ⟨?_, ?_, ?_, ?_, ?_, ?_⟩ <;> exact ⟨_, _, rfl, by decide⟩
  exact all pair member

theorem readsAs_word {pair : Text × Value} (member : pair ∈ words) {fuel : Nat}
    (enough : pair.1.length ≤ fuel) : ReadsAs (value? fuel) pair.1 pair.2 := by
  have found (rest : Text) : ∀ pair ∈ words, scalar? (pair.1 ++ rest) = some (pair.2, rest) := by
    simp only [words, List.forall_mem_cons, List.not_mem_nil, false_implies, implies_true, and_true]
    exact ⟨rfl, rfl, rfl, rfl, rfl, rfl⟩
  rcases leading_of_mem_words member with ⟨first, more, shape, leading⟩
  have read (rest : Text) := found rest pair member
  rw [shape] at enough read ⊢
  rcases Nat.exists_eq_add_of_lt enough with ⟨extra, rfl⟩
  refine readsAs_value? fun rest _ => ?_
  rw [List.cons_append, value?_scalar leading, ← List.cons_append, read]

theorem length_le_escaped (text : Text) : text.length ≤ (text.flatMap escaped).length := by
  induction text with
  | nil => exact Nat.le_refl _
  | cons character text induction =>
      rcases (character?_escaped character []).2 with ⟨first, more, shape, -⟩
      rw [List.flatMap_cons, shape, List.length_append, List.length_cons, List.length_cons]
      omega

theorem value?_quote (fuel : Nat) (inside : Text) :
    value? (fuel + 1) ('"' :: inside) =
      (characters? fuel inside).map fun (value, rest) => (.text value, rest) := rfl

theorem value?_bracket (fuel : Nat) (inside : Text) :
    value? (fuel + 1) ('[' :: inside) =
      (sequence? (value? fuel) ']' fuel inside).map fun (items, rest) => (.list items, rest) := rfl

theorem value?_brace (fuel : Nat) (inside : Text) :
    value? (fuel + 1) ('\x7b' :: inside) =
      (sequence? (field? (value? fuel) fuel) '\x7d' fuel inside).map fun (fields, rest) =>
        (.object fields, rest) := rfl

theorem field?_quote {element : Text → Option (Value × Text)} {fuel : Nat} {inside : Text}
    {name rest : Text} (read : characters? fuel inside = some (name, ':' :: rest)) :
    field? element fuel ('"' :: inside) =
      (element rest).map fun (value, after) => ((name, value), after) := by
  have opened : field? element fuel ('"' :: inside) =
      (characters? fuel inside).bind fun (name, behind) =>
        match skip behind with
        | ':' :: rest => (element rest).map fun (value, after) => ((name, value), after)
        | _ => none := rfl
  rw [opened, read]
  rfl

theorem readsAs_string {text : Text} {fuel : Nat} (enough : (string text).length ≤ fuel) :
    ReadsAs (value? fuel) (string text) (.text text) := by
  have size : (string text).length = (text.flatMap escaped).length + 2 := by
    simp [string]
  have longer := length_le_escaped text
  rw [size] at enough
  rcases Nat.exists_eq_add_of_le' enough with ⟨extra, rfl⟩
  refine readsAs_value? fun rest _ => ?_
  have shape : string text ++ rest = '"' :: (text.flatMap escaped ++ '"' :: rest) := by
    simp [string]
  have read := characters?_string (by omega :
    text.length ≤ extra + ((text.flatMap escaped).length + 1)) rest
  rw [shape, ← Nat.add_assoc, value?_quote, Nat.add_assoc, read]
  rfl

theorem field?_render {name : Text} {element : Text → Option (Value × Text)} {fuel : Nat}
    (enough : name.length ≤ fuel) {text : Text} {value : Value} {rest : Text}
    (read : element (' ' :: (text ++ rest)) = some (value, rest)) :
    field? element fuel (string name ++ ": " ++ text ++ rest) = some ((name, value), rest) := by
  have shape : string name ++ ": " ++ text ++ rest =
      '"' :: (name.flatMap escaped ++ '"' :: ':' :: ' ' :: (text ++ rest)) := by
    simp [string]
  rw [shape, field?_quote (characters?_string enough _), read]
  rfl

/-- A double is written as a number, or as one of the words. -/
theorem real_cases (value : Float) :
    (∃ number, number? (real value) = some number ∧ Denotes (.number number) (.real value)) ∨
      ∃ shown, (real value, shown) ∈ words ∧ Denotes shown (.real value) := by
  rw [real]
  split
  · rename_i unknown
    cases number : value.isNaN with
    | true => exact .inr ⟨.notANumber, by simp [words], .notANumber unknown number⟩
    | false =>
        have denotes := Denotes.infinity unknown number
        by_cases negative : value < 0
        · simp only [negative, decide_true] at denotes
          exact .inr ⟨_, by simp [words, negative], denotes⟩
        · simp only [negative, decide_false] at denotes
          exact .inr ⟨_, by simp [words, negative], denotes⟩
  · rename_i parts known
    rcases number?_ofFloat known with ⟨magnitude, read, nearest⟩
    exact .inl ⟨_, read, .finite known nearest⟩

theorem mem_words_truth (value : Bool) : (render (.truth value), .truth value) ∈ words := by
  cases value <;> simp [words, render]

/-- Neither a gap nor a sign that closes something. -/
theorem plain_of_leading {first : Char} (leads : first ∈ leading) :
    isGap first = false ∧ first ≠ ']' := by
  have known : ∀ sign ∈ leading, isGap sign = false ∧ sign ≠ ']' := by decide
  exact known first leads

/-- The line of a value starts with nothing that would be passed over or close a list. -/
theorem head_render (datum : Datum) :
    ∃ first more, render datum = first :: more ∧ isGap first = false ∧ first ≠ ']' := by
  have ofWord {text : Text} {value : Value} (member : (text, value) ∈ words) :
      ∃ first more, text = first :: more ∧ isGap first = false ∧ first ≠ ']' := by
    rcases leading_of_mem_words member with ⟨first, more, shape, leads⟩
    exact ⟨first, more, shape, plain_of_leading leads⟩
  have ofNumber {text : Text} {number : Number} (read : number? text = some number) :
      ∃ first more, text = first :: more ∧ isGap first = false ∧ first ≠ ']' := by
    rcases mem_leading_of_number? read with ⟨first, more, shape, leads⟩
    exact ⟨first, more, shape, plain_of_leading leads⟩
  cases datum with
  | null => exact ⟨_, _, rfl, by decide, by decide⟩
  | truth value => exact ofWord (mem_words_truth value)
  | integer value => exact ofNumber (number?_integer value)
  | real value =>
      rcases real_cases value with ⟨number, read, -⟩ | ⟨shown, member, -⟩
      · exact ofNumber read
      · exact ofWord member
  | text value => exact ⟨_, _, rfl, by decide, by decide⟩
  | list items => exact ⟨_, _, rfl, by decide, by decide⟩
  | object fields => exact ⟨_, _, rfl, by decide, by decide⟩
  | thing typeName plain display => exact ⟨_, _, rfl, by decide, by decide⟩

theorem renderItems_eq_map (items : List Datum) : renderItems items = items.map render := by
  induction items with
  | nil => rfl
  | cons item items induction => rw [renderItems, induction, List.map_cons]

/-- A field of an object. -/
def renderField (field : Text × Datum) : Text :=
  string field.1 ++ ": " ++ render field.2

theorem renderFields_eq_map (fields : List (Text × Datum)) :
    renderFields fields = fields.map renderField := by
  induction fields with
  | nil => rfl
  | cons field fields induction => rw [renderFields, induction, List.map_cons, renderField]

/-! ## The round trip -/

/-- Texts between two signs are read as the value made of what each of them is read as. -/
theorem readsAs_enclosed {α : Type} {element : Nat → Text → Option (α × Text)}
    {opening closing : Char} {make : List α → Value}
    (opened : ∀ fuel inside, value? (fuel + 1) (opening :: inside) =
      (sequence? (element fuel) closing fuel inside).map fun (values, rest) => (make values, rest))
    (other : closing ≠ ',') (solid : isGap closing = false) (foreign : isNumeral closing = false)
    {texts : List Text} (begun : ∀ text ∈ texts, ∃ first more, text = first :: more ∧
      isGap first = false ∧ first ≠ closing) {fuel : Nat}
    (enough : (Text.join ", " texts).length + 2 ≤ fuel) :
    ∃ inner, (∀ text ∈ texts, text.length ≤ inner) ∧
      ∀ values, List.Forall₂ (ReadsAs (element inner)) texts values →
        ReadsAs (value? fuel) (opening :: (Text.join ", " texts ++ [closing])) (make values) := by
  cases fuel with
  | zero => cases enough
  | succ inner =>
      have space : (Text.join ", " texts).length < inner := Nat.le_of_succ_le_succ enough
      refine ⟨inner, fun text member => ?_, fun values read => readsAs_value? fun rest _ => ?_⟩
      · exact Nat.le_trans (Text.length_le_join member) (Nat.le_of_lt space)
      · have counted := @Text.count_le_join ", " texts fun text member => by
          rcases begun text member with ⟨first, more, rfl, -⟩
          exact List.cons_ne_nil first more
        rw [List.cons_append, List.append_assoc, List.singleton_append, opened,
          sequence?_join other solid foreign read begun (Nat.le_trans counted (Nat.le_of_lt space))]
        rfl

mutual

/-- The line of a value is read as that value. -/
theorem value?_render (datum : Datum) {fuel : Nat} (enough : (render datum).length ≤ fuel) :
    ∃ value, ReadsAs (value? fuel) (render datum) value ∧ Denotes value datum :=
  match datum with
  | .null => ⟨.null, @readsAs_word ("null".toList, .null) (by simp [words]) _ enough, .null⟩
  | .truth value => ⟨_, readsAs_word (mem_words_truth value) enough, .truth value⟩
  | .integer value => ⟨_, readsAs_number (number?_integer value) enough, .integer value⟩
  | .real value => by
      rcases real_cases value with ⟨number, read, denotes⟩ | ⟨shown, member, denotes⟩
      · exact ⟨_, readsAs_number read enough, denotes⟩
      · exact ⟨_, readsAs_word member enough, denotes⟩
  | .text value => ⟨_, readsAs_string enough, .text value⟩
  | .list items => by
      have size : (render (.list items)).length =
          (Text.join ", " (renderItems items)).length + 2 := by
        simp [render]
      rcases @readsAs_enclosed _ value? '[' ']' .list value?_bracket (by decide) (by decide)
        (by decide) (renderItems items) (fun text member => by
          rw [renderItems_eq_map] at member
          rcases List.mem_map.mp member with ⟨item, -, rfl⟩
          exact head_render item) fuel (size ▸ enough) with ⟨inner, room, whole⟩
      rcases items?_render items room with ⟨values, read, denotes⟩
      exact ⟨.list values, whole values read, .list denotes⟩
  | .object fields => by
      have size : (render (.object fields)).length =
          (Text.join ", " (renderFields fields)).length + 2 := by
        simp [render]
      rcases @readsAs_enclosed _ (fun fuel => field? (value? fuel) fuel) '\x7b' '\x7d' .object
        value?_brace (by decide) (by decide) (by decide) (renderFields fields)
        (fun text member => by
          rw [renderFields_eq_map] at member
          rcases List.mem_map.mp member with ⟨field, -, rfl⟩
          exact ⟨_, _, rfl, by decide, by decide⟩) fuel (size ▸ enough) with ⟨inner, room, whole⟩
      rcases fields?_render fields room with ⟨values, read, denotes⟩
      exact ⟨.object values, whole values read, .object denotes⟩
  | .thing typeName plain display =>
      ⟨_, readsAs_string enough, .thing typeName plain display⟩

theorem items?_render (items : List Datum) {fuel : Nat}
    (enough : ∀ text ∈ renderItems items, text.length ≤ fuel) :
    ∃ values, List.Forall₂ (ReadsAs (value? fuel)) (renderItems items) values ∧
      DenotesItems values items :=
  match items with
  | [] => ⟨[], .nil, .nil⟩
  | item :: rest => by
      rw [renderItems, List.forall_mem_cons] at enough
      rcases value?_render item enough.1 with ⟨value, read, denotes⟩
      rcases items?_render rest enough.2 with ⟨values, readRest, denotesRest⟩
      exact ⟨value :: values, .cons read readRest, .cons denotes denotesRest⟩

theorem fields?_render (fields : List (Text × Datum)) {fuel : Nat}
    (enough : ∀ text ∈ renderFields fields, text.length ≤ fuel) :
    ∃ values, List.Forall₂ (ReadsAs (field? (value? fuel) fuel)) (renderFields fields) values ∧
      DenotesFields values fields :=
  match fields with
  | [] => ⟨[], .nil, .nil⟩
  | (name, datum) :: rest => by
      rw [renderFields, List.forall_mem_cons, List.length_append] at enough
      rcases value?_render datum (Nat.le_trans (Nat.le_add_left _ _) enough.1) with
        ⟨value, read, denotes⟩
      rcases fields?_render rest enough.2 with ⟨values, readRest, denotesRest⟩
      have short : name.length ≤ fuel := by
        have longer := length_le_escaped name
        have size : (string name ++ ": ").length = (name.flatMap escaped).length + 4 := by
          simp [string]
        omega
      have here : ReadsAs (field? (value? fuel) fuel) (string name ++ ": " ++ render datum)
          (name, value) := by
        intro rest stops
        rw [field?_space]
        have found := field?_render short (read rest stops).2
        exact ⟨found, found⟩
      exact ⟨(name, value) :: values, .cons here readRest, .cons name denotes denotesRest⟩

end

/-- Reading a line back gives the value it was written for. -/
theorem read?_render (datum : Datum) :
    ∃ value, read? (render datum) = some value ∧ Denotes value datum := by
  rcases value?_render datum (Nat.le_refl _) with ⟨value, read, denotes⟩
  have found := (read [] stops_nil).1
  rw [List.append_nil] at found
  exact ⟨value, by rw [read?, found]; rfl, denotes⟩

/-! ## Visible text -/

theorem isVisible_of_number? {token : Text} {number : Number}
    (read : number? token = some number) : IsVisible token := by
  have known : ∀ sign ∈ Decimal.figures ++ ['+', '-', '.', 'e', 'E'],
      32 ≤ sign.toNat ∧ sign.toNat < 127 := by decide
  intro character member
  have numeral := isNumeral_of_number? read character member
  simp only [isNumeral, isFigure, Bool.or_eq_true, List.elem_eq_mem, decide_eq_true_eq] at numeral
  exact known character (List.mem_append.mpr numeral)

theorem isVisible_of_mem_words {pair : Text × Value} (member : pair ∈ words) :
    IsVisible pair.1 := by
  have all : ∀ pair ∈ words, IsVisible pair.1 := by
    simp only [words, List.forall_mem_cons, List.not_mem_nil, false_implies, implies_true, and_true]
    decide
  exact all pair member

theorem isVisible_join {texts : List Text} (visible : ∀ text ∈ texts, IsVisible text) :
    IsVisible (Text.join ", " texts) := by
  have comma : IsVisible ", " := by decide
  intro character member
  rcases Text.mem_of_mem_join member with separating | ⟨text, present, inside⟩
  · exact comma character separating
  · exact visible text present character inside

mutual

/-- A value is written in visible characters only, so its line has no line end in it. -/
theorem isVisible_render (datum : Datum) : IsVisible (render datum) :=
  match datum with
  | .null => by decide
  | .truth value => isVisible_of_mem_words (mem_words_truth value)
  | .integer value => isVisible_of_number? (number?_integer value)
  | .real value => by
      rcases real_cases value with ⟨number, read, -⟩ | ⟨shown, member, -⟩
      · exact isVisible_of_number? read
      · exact isVisible_of_mem_words member
  | .text value => isVisible_string value
  | .list items => by
      have signs : IsVisible "[" ∧ IsVisible "]" := by decide
      exact (signs.1.append (isVisible_join (isVisible_renderItems items))).append signs.2
  | .object fields => by
      have signs : IsVisible "\x7b" ∧ IsVisible "\x7d" := by decide
      exact (signs.1.append (isVisible_join (isVisible_renderFields fields))).append signs.2
  | .thing _ plain _ => isVisible_string plain

theorem isVisible_renderItems (items : List Datum) : ∀ text ∈ renderItems items, IsVisible text :=
  match items with
  | [] => fun _ member => nomatch member
  | item :: rest => by
      rw [renderItems, List.forall_mem_cons]
      exact ⟨isVisible_render item, isVisible_renderItems rest⟩

theorem isVisible_renderFields (fields : List (Text × Datum)) :
    ∀ text ∈ renderFields fields, IsVisible text :=
  match fields with
  | [] => fun _ member => nomatch member
  | (name, datum) :: rest => by
      have colon : IsVisible ": " := by decide
      rw [renderFields, List.forall_mem_cons]
      exact ⟨((isVisible_string name).append colon).append (isVisible_render datum),
        isVisible_renderFields rest⟩

end

end Json

end SchemaSeed
