import SchemaSeed.Proofs.Decimal.Natural
import SchemaSeed.Proofs.Sql.Matching
import SchemaSeed.Proofs.Sql.Names
import SchemaSeed.Proofs.Table.Declaration

/-! What no search finds in a declaration.  The characters around names, lengths and
members bar every pattern that declarations are searched for, so a pattern that occurs
in none of the parts between them does not occur at all. -/

namespace SchemaSeed

namespace Declaration

/-! ## Names -/

theorem Name.ne (name : Name) {other : Char} (foreign : Sql.isNameCharacter other = false) :
    ∀ character ∈ name.text, character ≠ other := by
  intro character member
  exact Sql.ne_of_isNameCharacter (name.known character member) foreign

theorem occurs_phrase_of_name (first second : Text) (name : Name) :
    Sql.occurs (Sql.phrase? first second) name.text = false := by
  apply Sql.occurs_eq_false_of_all (Sql.phrase?_eq_none_of_solid first second)
  intro character member
  exact Sql.isBlank_of_isNameCharacter (name.known character member)

theorem occurs_engineClause_of_name (name : Name) :
    Sql.occurs Sql.engineClause? name.text = false :=
  Sql.occurs_eq_false_of_all Sql.engineClause?_eq_none_of_no_equals (name.ne (by decide))

/-! ## The parts between bars -/

/-- The characters around names, lengths and members. -/
def bars : List Char := [Sql.backtick, '\'', '(', ')', ',']

/-- The parts of a declaration that are the same for every table. -/
def fixedParts (unsigned : Bool) : List Text :=
  Kind.tail unsigned :: [" ", " INT NOT NULL", " ENUM"].map String.toList ++
    Column.typeKeywords.flatMap fun (keyword, _) =>
      [' ' :: keyword, ' ' :: keyword ++ Kind.tail unsigned]

/-- A pattern that does not occur between the bars of a declaration. -/
structure Quiet (matcher : Text → Option Text) (unsigned : Bool) : Prop where
  nothing : matcher [] = none
  barred : ∀ character ∈ bars, Sql.Bars matcher character
  figures : ∀ digits : Text, (∀ digit ∈ digits, digit ∈ Decimal.figures) →
    Sql.occurs matcher digits = false
  parts : ∀ part ∈ fixedParts unsigned, Sql.occurs matcher part = false

theorem occurs_figures {matcher : Text → Option Text} {letter : Char}
    (starts : Sql.StartsWith matcher letter)
    (foreign : ∀ digit ∈ Decimal.figures, Character.spells letter digit = false)
    (digits : Text) (known : ∀ digit ∈ digits, digit ∈ Decimal.figures) :
    Sql.occurs matcher digits = false :=
  Sql.silent_nil_iff.mp (starts.silent (fun digit member => foreign digit (known digit member)) [])

theorem quiet_word {letter : Char} {letters : Text} {unsigned : Bool}
    (foreign : ∀ character ∈ bars ++ Decimal.figures, ∀ known ∈ letter :: letters,
      Character.spells known character = false)
    (parts : ∀ part ∈ fixedParts unsigned,
      Sql.occurs (Sql.word? (letter :: letters)) part = false) :
    Quiet (Sql.word? (letter :: letters)) unsigned where
  nothing := rfl
  barred character member :=
    Sql.bars_word fun known found => foreign character (List.mem_append_left _ member) known found
  figures := occurs_figures (Sql.startsWith_word letter letters) fun digit member =>
    foreign digit (List.mem_append_right _ member) letter List.mem_cons_self
  parts := parts

theorem quiet_phrase {letter : Char} {letters second : Text} {unsigned : Bool}
    (foreign : ∀ character ∈ bars ++ Decimal.figures, ∀ known ∈ letter :: letters ++ second,
      Character.spells known character = false)
    (parts : ∀ part ∈ fixedParts unsigned,
      Sql.occurs (Sql.phrase? (letter :: letters) second) part = false) :
    Quiet (Sql.phrase? (letter :: letters) second) unsigned where
  nothing := rfl
  barred character member :=
    have solid : ∀ character ∈ bars, Character.isBlank character = false := by decide
    Sql.bars_phrase
      (fun known found => foreign character (List.mem_append_left _ member) known found)
      (solid character member)
  figures := occurs_figures (((Sql.startsWith_word letter letters).bind _).bind _)
    fun digit member => foreign digit (List.mem_append_right _ member) letter (by simp)
  parts := parts

theorem quiet_tableMarker (unsigned : Bool) : Quiet Sql.tableMarker? unsigned :=
  @quiet_phrase 'c' ['r', 'e', 'a', 't', 'e'] ['t', 'a', 'b', 'l', 'e'] unsigned
    (by decide) (by cases unsigned <;> decide)

theorem quiet_primaryKey (unsigned : Bool) : Quiet Sql.primaryKey? unsigned :=
  @quiet_phrase 'p' ['r', 'i', 'm', 'a', 'r', 'y'] ['k', 'e', 'y'] unsigned
    (by decide) (by cases unsigned <;> decide)

theorem quiet_engineClause (unsigned : Bool) : Quiet Sql.engineClause? unsigned where
  nothing := rfl
  barred := by
    have foreign : ∀ character ∈ bars, ∀ letter ∈ ("engine" : Text),
        Character.spells letter character = false := by decide
    have solid : ∀ character ∈ bars, Character.isBlank character = false ∧ character ≠ '=' := by
      decide
    intro character member
    exact Sql.bars_engineClause (foreign character member) (solid character member).1
      (solid character member).2
  figures := occurs_figures Sql.startsWith_engineClause (by decide)
  parts := by cases unsigned <;> decide

theorem quiet_comment (unsigned : Bool) : Quiet (Sql.word? "comment") unsigned :=
  @quiet_word 'c' ['o', 'm', 'm', 'e', 'n', 't'] unsigned
    (by decide) (by cases unsigned <;> decide)

/-- No declaration speaks of a key, an index or a constraint. -/
theorem quiet_keyWords (unsigned : Bool) :
    ∀ letters ∈ Sql.keyWords, Quiet (Sql.word? letters) unsigned := by
  intro letters member
  have nonempty : ∀ letters ∈ Sql.keyWords, letters ≠ [] := by decide
  rcases List.exists_cons_of_ne_nil (nonempty letters member) with ⟨letter, more, rfl⟩
  have foreign : ∀ letters ∈ Sql.keyWords, ∀ character ∈ bars ++ Decimal.figures,
      ∀ known ∈ letters, Character.spells known character = false := by decide
  have parts : ∀ letters ∈ Sql.keyWords, ∀ part ∈ fixedParts unsigned,
      Sql.occurs (Sql.word? letters) part = false := by cases unsigned <;> decide
  exact quiet_word (foreign _ member) (parts _ member)

theorem quiet_timestamp (unsigned : Bool) : Quiet (Sql.word? "timestamp") unsigned :=
  @quiet_word 't' ['i', 'm', 'e', 's', 't', 'a', 'm', 'p'] unsigned
    (by decide) (by cases unsigned <;> decide)

theorem quiet_unsigned : Quiet (Sql.word? "unsigned") false :=
  @quiet_word 'u' ['n', 's', 'i', 'g', 'n', 'e', 'd'] false (by decide) (by decide)

/-! ## Whole declarations -/

theorem Numeral.mem_figures (numeral : Numeral) :
    ∀ digit ∈ numeral.digits, digit ∈ Decimal.figures := by
  intro digit member
  rcases List.mem_append.mp member with zero | figure
  · rw [List.eq_of_mem_replicate zero]
    decide
  · exact Decimal.mem_figures_of_mem_natural numeral.value digit figure

theorem Kind.forall_lengthText {property : Char → Prop} (length : Option Numeral)
    (known : ∀ character ∈ '(' :: (Decimal.figures ++ [')']), property character) :
    ∀ character ∈ lengthText length, property character := by
  cases length with
  | none =>
      intro character impossible
      cases impossible
  | some numeral =>
      intro character member
      apply known
      rcases List.mem_append.mp member with front | last
      · rcases List.mem_cons.mp front with rfl | digit
        · exact List.mem_cons_self
        · exact List.mem_cons_of_mem _
            (List.mem_append_left _ (numeral.mem_figures character digit))
      · exact List.mem_cons_of_mem _ (List.mem_append_right _ last)

theorem Kind.forall_typed {property : Char → Prop} {keyword : Keyword} {length : Option Numeral}
    {unsigned : Bool} (inKeyword : ∀ character ∈ keyword.text, property character)
    (known : ∀ character ∈ '(' :: (Decimal.figures ++ [')']), property character)
    (inTail : ∀ character ∈ tail unsigned, property character) :
    ∀ character ∈ (typed keyword length unsigned).text, property character := by
  intro character member
  rcases List.mem_append.mp member with front | last
  · rcases List.mem_append.mp front with first | between
    · exact inKeyword character first
    · exact forall_lengthText length known character between
  · exact inTail character last

namespace Quiet

variable {matcher : Text → Option Text} {unsigned : Bool} (quiet : Quiet matcher unsigned)

include quiet

theorem bar {character : Char} (member : character ∈ bars) {left right : Text} :
    Sql.occurs matcher (left ++ character :: right) = false ↔
      Sql.occurs matcher left = false ∧ Sql.occurs matcher right = false :=
  Sql.occurs_bar (quiet.barred character member) quiet.nothing

theorem literal {member : Member} (absent : Sql.occurs matcher member.text = false) :
    Sql.occurs matcher member.literal = false := by
  have opening : member.literal = [] ++ '\'' :: (member.text ++ '\'' :: []) := rfl
  rw [opening, quiet.bar (by decide), quiet.bar (by decide)]
  exact ⟨rfl, absent, rfl⟩

theorem membersText {first : Member} {others : List Member}
    (absent : ∀ member ∈ first :: others, Sql.occurs matcher member.text = false) :
    Sql.occurs matcher (Kind.membersText first others) = false := by
  induction others generalizing first with
  | nil =>
      rw [Kind.membersText_singleton]
      exact quiet.literal (absent first List.mem_cons_self)
  | cons second others induction =>
      have rest := induction fun member found => absent member (List.mem_cons_of_mem _ found)
      rw [Kind.membersText_cons, quiet.bar (by decide)]
      exact ⟨quiet.literal (absent first List.mem_cons_self), rest⟩

end Quiet

/-- A quiet pattern occurs in a declaration only if it does in a member. -/
theorem Kind.occurs_text {matcher : Text → Option Text} {kind : Kind}
    (quiet : Quiet matcher kind.unsigned)
    (absent : ∀ member ∈ kind.members, Sql.occurs matcher member.text = false) :
    Sql.occurs matcher (' ' :: kind.text) = false := by
  cases kind with
  | typed keyword length unsigned =>
      have known : ' ' :: keyword.text ∈ fixedParts unsigned ∧
          ' ' :: keyword.text ++ Kind.tail unsigned ∈ fixedParts unsigned := by
        constructor
        · apply List.mem_append_right
          exact List.mem_flatMap.mpr ⟨_, keyword.known, List.mem_cons_self⟩
        · apply List.mem_append_right
          exact List.mem_flatMap.mpr
            ⟨_, keyword.known, List.mem_cons_of_mem _ List.mem_cons_self⟩
      cases length with
      | none => simpa [Kind.text, Kind.lengthText] using quiet.parts _ known.2
      | some numeral =>
          have shape : ' ' :: (typed keyword (some numeral) unsigned).text =
              (' ' :: keyword.text) ++ '(' :: (numeral.digits ++ ')' :: Kind.tail unsigned) := by
            simp [Kind.text, Kind.lengthText]
          rw [shape, quiet.bar (by decide), quiet.bar (by decide)]
          exact ⟨quiet.parts _ known.1, quiet.figures _ numeral.mem_figures,
            quiet.parts _ List.mem_cons_self⟩
  | enumeration first others =>
      have shape : ' ' :: (enumeration first others).text =
          " ENUM".toList ++ '(' :: (Kind.membersText first others ++ ')' :: Kind.tail false) := by
        simp [Kind.text]
      rw [shape, quiet.bar (by decide), quiet.bar (by decide)]
      exact ⟨quiet.parts _ (by simp [fixedParts]), quiet.membersText absent,
        quiet.parts _ List.mem_cons_self⟩

theorem Field.occurs_text {matcher : Text → Option Text} {field : Field}
    (quiet : Quiet matcher field.kind.unsigned)
    (name : Sql.occurs matcher field.name.text = false)
    (absent : ∀ member ∈ field.kind.members, Sql.occurs matcher member.text = false) :
    Sql.occurs matcher field.text = false := by
  have shape : field.text =
      [] ++ Sql.backtick :: (field.name.text ++ Sql.backtick :: (' ' :: field.kind.text)) := by
    simp [text, Name.quoted]
  rw [shape, quiet.bar (by decide), quiet.bar (by decide)]
  exact ⟨rfl, name, Kind.occurs_text quiet absent⟩

theorem occurs_keyField {matcher : Text → Option Text} (quiet : Quiet matcher false)
    (declaration : Declaration)
    (name : Sql.occurs matcher declaration.primaryKey.text = false) :
    Sql.occurs matcher declaration.keyField = false := by
  have shape : declaration.keyField = [] ++ Sql.backtick ::
      (declaration.primaryKey.text ++ Sql.backtick :: " INT NOT NULL".toList) := by
    unfold keyField Name.quoted
    simp
  rw [shape, quiet.bar (by decide), quiet.bar (by decide)]
  exact ⟨rfl, name, quiet.parts _ (by simp [fixedParts])⟩

end Declaration

end SchemaSeed
