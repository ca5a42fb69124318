import SchemaSeed.Proofs.Sql.Comments
import SchemaSeed.Proofs.Sql.Segment
import SchemaSeed.Proofs.Table.Layout

/-! The text of a declaration as a document.  It has one marker, at its start, and its
ENGINE clause stands behind the statement; the statement holds no comment.  So it is
segmented into the statement alone. -/

namespace SchemaSeed

namespace Declaration

/-! ## Comments -/

/-- A character outside of quotes that neither is removed nor opens a comment. -/
def IsLasting (character : Char) : Prop :=
  Sql.isQuote character = false ∧ character ≠ '/' ∧ character ≠ '#' ∧ character ≠ '-'

instance (character : Char) : Decidable (IsLasting character) := by
  unfold IsLasting
  infer_instance

/-- Plain parts are kept in front of a bar and at the end. -/
theorem kept_part {part rest : Text} (lasting : ∀ character ∈ part, IsLasting character)
    (unannotated : Sql.occurs (Sql.word? "comment") part = false)
    (ended : ∀ character, rest.head? = some character → character ∈ bars) :
    Sql.Kept part rest := by
  apply Sql.kept_plain lasting unannotated
  intro character first
  have outside : ∀ character ∈ bars, Sql.isMargin character = false ∧ character ≠ '#' ∧
      character ≠ '-' := by decide
  exact ⟨(quiet_comment false).barred character (ended character first),
    outside character (ended character first)⟩

theorem Name.kept (name : Name) (rest : Text) : Sql.Kept name.quoted rest :=
  Sql.kept_name (name.ne (by decide)) rest

theorem Member.kept (member : Member) {rest : Text} (single : rest.head? ≠ some '\'') :
    Sql.Kept member.literal rest :=
  Sql.kept_literal member.closed single

theorem Kind.kept_membersText (first : Member) (others : List Member) {rest : Text}
    (single : rest.head? ≠ some '\'') : Sql.Kept (membersText first others) rest := by
  induction others generalizing first with
  | nil =>
      rw [membersText_singleton]
      exact first.kept single
  | cons second others induction =>
      have shape : membersText first (second :: others) =
          first.literal ++ ([','] ++ membersText second others) :=
        membersText_cons first second others
      have opens : ∀ character,
          (membersText second others ++ rest).head? = some character → character ∈ bars := by
        intro character found
        have quote : (membersText second others ++ rest).head? = some '\'' := by
          cases others <;> rfl
        rw [quote] at found
        cases found
        decide
      rw [shape]
      exact (first.kept (by simp)).append
        ((kept_part (by decide) (by decide) opens).append (induction second))

theorem Keyword.lasting (keyword : Keyword) :
    ∀ character ∈ keyword.text, IsLasting character := by
  have lasting : ∀ entry ∈ Column.typeKeywords, ∀ character ∈ entry.1, IsLasting character := by
    decide
  exact lasting _ keyword.known

theorem Kind.lasting_tail (unsigned : Bool) : ∀ character ∈ tail unsigned, IsLasting character := by
  cases unsigned <;> decide

theorem Kind.kept (kind : Kind) (rest : Text) :
    Sql.Kept (' ' :: kind.text) (',' :: rest) := by
  have ended : ∀ character, (',' :: rest).head? = some character → character ∈ bars := by
    rintro character ⟨⟩
    decide
  cases kind with
  | typed keyword length unsigned =>
      have lasting : ∀ character ∈ (typed keyword length unsigned).text, IsLasting character :=
        forall_typed keyword.lasting (by decide) (lasting_tail unsigned)
      have unannotated : Sql.occurs (Sql.word? "comment")
          (' ' :: (typed keyword length unsigned).text) = false :=
        Kind.occurs_text (quiet_comment _) fun _ none => nomatch none
      apply kept_part _ unannotated ended
      intro character member
      rcases List.mem_cons.mp member with rfl | member
      · decide
      · exact lasting character member
  | enumeration first others =>
      have shape : ' ' :: (enumeration first others).text =
          " ENUM(".toList ++ (membersText first others ++ (')' :: tail false)) := by
        simp [text]
      have quote : (membersText first others ++ (')' :: tail false) ++ ',' :: rest).head? =
          some '\'' := by
        cases others <;> rfl
      have opens : ∀ character,
          (membersText first others ++ (')' :: tail false) ++ ',' :: rest).head? =
            some character → character ∈ bars := by
        intro character found
        rw [quote] at found
        cases found
        decide
      rw [shape]
      exact (kept_part (by decide) (by decide) opens).append
        ((kept_membersText first others (by simp)).append
          (kept_part (by decide) (by decide) ended))

theorem Field.kept (field : Field) (rest : Text) : Sql.Kept field.text (',' :: rest) :=
  (field.name.kept _).append (field.kind.kept rest)

theorem kept_fields (fields : List Field) (rest : Text) :
    Sql.Kept (fields.flatMap fun field => ',' :: ' ' :: field.text) (',' :: rest) := by
  induction fields with
  | nil =>
      intro previous kept
      exact ⟨previous, Sql.stripFrom_finished previous kept _⟩
  | cons field fields induction =>
      have next : ∃ more, (fields.flatMap fun field => ',' :: ' ' :: field.text) ++ ',' :: rest =
          ',' :: more := by
        cases fields with
        | nil => exact ⟨rest, rfl⟩
        | cons second fields => exact ⟨_, rfl⟩
      rcases next with ⟨more, next⟩
      have shape : ',' :: ' ' :: field.text = [',', ' '] ++ field.text := rfl
      have opens : ∀ character, (field.text ++ (fields.flatMap fun field =>
          ',' :: ' ' :: field.text) ++ ',' :: rest).head? = some character → character ∈ bars := by
        rintro character ⟨⟩
        decide
      rw [List.flatMap_cons, shape, List.append_assoc]
      refine (kept_part (by decide) (by decide) opens).append (.append ?_ induction)
      rw [next]
      exact field.kept more

variable (declaration : Declaration)

/-- The statement part by part. -/
theorem statement_eq :
    declaration.statement = "CREATE TABLE ".toList ++ (declaration.name.quoted ++
      (" (".toList ++ (declaration.primaryKey.quoted ++ (" INT NOT NULL".toList ++
        ((declaration.fields.flatMap fun field => ',' :: ' ' :: field.text) ++
          (',' :: " PRIMARY KEY (".toList ++
            (declaration.primaryKey.quoted ++ ")) ".toList))))))) := by
  have comma : (", ".toList : Text) = [',', ' '] := by decide
  have clause : " PRIMARY KEY (".toList = ' ' :: ("PRIMARY KEY ".toList ++ ['(']) := by
    decide
  have closing : ")) ".toList = ')' :: ") ".toList := by decide
  unfold statement head items keyField keyClause
  rw [Text.join_cons, List.flatMap_append, List.flatMap_map, comma, clause, closing]
  simp only [List.flatMap_cons, List.flatMap_nil, List.append_assoc, List.cons_append,
    List.nil_append, List.append_nil]

theorem stripComments_statement :
    Sql.stripComments declaration.statement = declaration.statement := by
  apply Sql.stripComments_of_kept
  have tick : ∀ (text : Text) (character : Char),
      (Sql.backtick :: text).head? = some character → character ∈ bars := by
    rintro text character ⟨⟩
    decide
  have nothing : ∀ character, ([] : Text).head? = some character → character ∈ bars := by
    intro character impossible
    cases impossible
  have comma : ∀ (fields : List Field) (rest : Text) (character : Char),
      ((fields.flatMap fun field => ',' :: ' ' :: field.text) ++ ',' :: rest).head? =
        some character → character ∈ bars := by
    intro fields rest character first
    have found : ',' = character := by
      cases fields <;> exact Option.some.inj first
    rw [← found]
    decide
  rw [statement_eq]
  refine .append (kept_part (by decide) (by decide) (tick _))
    (.append (declaration.name.kept _)
    (.append (kept_part (by decide) (by decide) (tick _))
    (.append (declaration.primaryKey.kept _)
    (.append (kept_part (by decide) (by decide) ?_)
    (.append (kept_fields _ _)
    (.append (kept_part (by decide) (by decide) (tick _))
    (.append (declaration.primaryKey.kept _)
      (kept_part (by decide) (by decide) nothing))))))))
  rw [List.append_nil]
  exact comma _ _

/-! ## The block -/

theorem occurs_join {matcher : Text → Option Text} (quiet : ∀ unsigned, Quiet matcher unsigned)
    {first : Text} {rest : List Text}
    (absent : ∀ item ∈ first :: rest, Sql.occurs matcher (' ' :: item) = false) :
    Sql.occurs matcher (' ' :: Text.join ", " (first :: rest)) = false := by
  induction rest generalizing first with
  | nil =>
      rw [Text.join_singleton]
      exact absent first List.mem_cons_self
  | cons second rest induction =>
      have comma : (", ".toList : Text) = [',', ' '] := by decide
      have shape : ' ' :: Text.join ", " (first :: second :: rest) =
          (' ' :: first) ++ ',' :: (' ' :: Text.join ", " (second :: rest)) := by
        rw [Text.join_cons_cons, comma]
        simp
      rw [shape, (quiet false).bar (by decide)]
      exact ⟨absent first List.mem_cons_self,
        induction fun item member => absent item (List.mem_cons_of_mem _ member)⟩

section Patterns

variable {matcher : Text → Option Text} (quiet : ∀ unsigned, Quiet matcher unsigned)
  (inName : ∀ name : Name, Sql.occurs matcher name.text = false)
  (inMember : ∀ member : Member, Sql.occurs matcher member.text = false)
  (inClause : Sql.occurs matcher " PRIMARY KEY " = false)

include quiet inName inMember inClause

theorem occurs_item : ∀ item ∈ declaration.items, Sql.occurs matcher (' ' :: item) = false := by
  have space : Sql.occurs matcher [' '] = false := (quiet false).parts _ (by decide)
  have behindSpace {rest : Text} (absent : Sql.occurs matcher (Sql.backtick :: rest) = false) :
      Sql.occurs matcher (' ' :: Sql.backtick :: rest) = false := by
    have shape : ' ' :: Sql.backtick :: rest = [' '] ++ Sql.backtick :: rest := rfl
    rw [shape, (quiet false).bar (by decide)]
    exact ⟨space, @Sql.occurs_right _ [Sql.backtick] _ absent⟩
  refine declaration.forall_items ?_ ?_ ?_
  · exact behindSpace (occurs_keyField (quiet false) declaration (inName _))
  · intro field _
    exact behindSpace (field.occurs_text (quiet _) (inName _) fun member _ => inMember member)
  · have shape : ' ' :: declaration.keyClause = " PRIMARY KEY ".toList ++ '(' :: ([] ++
        Sql.backtick :: (declaration.primaryKey.text ++ Sql.backtick :: ([] ++ ')' :: []))) := by
      have words : " PRIMARY KEY ".toList = ' ' :: "PRIMARY KEY ".toList := by decide
      unfold keyClause Name.quoted
      rw [words]
      simp only [List.append_assoc, List.cons_append, List.nil_append]
    rw [shape, (quiet false).bar (by decide), (quiet false).bar (by decide),
      (quiet false).bar (by decide), (quiet false).bar (by decide)]
    exact ⟨inClause, rfl, inName _, rfl, rfl⟩

/-- A pattern that is in no name and no member is in none of the statement. -/
theorem occurs_opened {front : Text} (inFront : Sql.occurs matcher front = false) :
    Sql.occurs matcher (front ++ declaration.name.quoted ++
      (' ' :: '(' :: Text.join ", " declaration.items)) = false := by
  have items := occurs_join quiet
    (declaration.occurs_item quiet inName inMember inClause)
  have shape : front ++ declaration.name.quoted ++
      (' ' :: '(' :: Text.join ", " declaration.items) =
        front ++ Sql.backtick :: (declaration.name.text ++ Sql.backtick ::
          ([' '] ++ '(' :: Text.join ", " declaration.items)) := by
    simp [Name.quoted]
  rw [shape, (quiet false).bar (by decide), (quiet false).bar (by decide),
    (quiet false).bar (by decide)]
  exact ⟨inFront, inName _, (quiet false).parts _ (by decide),
    @Sql.occurs_right _ [' '] _ items⟩

end Patterns

/-- What stands before the parenthesis that closes the statement. -/
theorem statement_opened : declaration.statement =
    "CREATE TABLE ".toList ++ declaration.name.quoted ++
      (' ' :: '(' :: Text.join ", " declaration.items) ++ [')', ' '] := by
  have opening : (" (".toList : Text) = [' ', '('] := by decide
  have closing : (") ".toList : Text) = [')', ' '] := by decide
  unfold statement head
  rw [opening, closing]
  simp only [List.append_assoc, List.cons_append, List.nil_append]

/-- The ENGINE clause of a declaration is the one behind its statement. -/
theorem engine_text : Sql.position? Sql.engineClause? 0 declaration.text =
    some declaration.statement.length := by
  have opened := declaration.occurs_opened quiet_engineClause occurs_engineClause_of_name
    (fun member => member.noEngine) (by decide)
    (show Sql.occurs Sql.engineClause? "CREATE TABLE " = false by decide)
  have silent : Sql.Silent Sql.engineClause? declaration.statement "ENGINE=InnoDB;" := by
    rw [statement_opened]
    refine (Sql.silent_bar ((quiet_engineClause false).barred ')' (by decide)) rfl).mpr
      ⟨Sql.silent_nil_iff.mpr opened, ?_⟩
    exact ⟨by decide, trivial⟩
  unfold text
  rw [Sql.position?_append_of_silent silent, Nat.zero_add]
  exact Sql.position?_of_match (List.cons_ne_nil _ _) (by decide) _

theorem marked_text (rest : Text) :
    (Sql.tableMarker? (declaration.text ++ rest)).isSome = true := by
  have barred := (quiet_tableMarker false).barred Sql.backtick (by decide) "CREATE TABLE "
    (declaration.name.text ++ Sql.backtick :: (' ' :: '(' :: Text.join ", " declaration.items ++
      [')', ' '] ++ "ENGINE=InnoDB;".toList ++ rest))
  have shape : declaration.text ++ rest = "CREATE TABLE ".toList ++ Sql.backtick ::
      (declaration.name.text ++ Sql.backtick :: (' ' :: '(' :: Text.join ", " declaration.items ++
        [')', ' '] ++ "ENGINE=InnoDB;".toList ++ rest)) := by
    unfold text
    rw [statement_opened]
    simp only [Name.quoted, List.append_assoc, List.cons_append, List.nil_append]
  rw [shape, barred, Option.isSome_map]
  decide

theorem single_marker_text : Sql.occurs Sql.tableMarker? declaration.text.tail = false := by
  have opened := declaration.occurs_opened quiet_tableMarker (occurs_phrase_of_name _ _)
    (fun member => member.noMarker) (by decide)
    (show Sql.occurs Sql.tableMarker? "REATE TABLE " = false by decide)
  have shape : declaration.text.tail =
      ("REATE TABLE ".toList ++ declaration.name.quoted ++
        (' ' :: '(' :: Text.join ", " declaration.items)) ++ ')' :: " ENGINE=InnoDB;".toList := by
    have front : "CREATE TABLE ".toList = 'C' :: "REATE TABLE ".toList := by decide
    have back : " ENGINE=InnoDB;".toList = ' ' :: "ENGINE=InnoDB;".toList := by decide
    unfold text
    rw [statement_opened, front, back]
    simp only [List.append_assoc, List.cons_append, List.nil_append, List.tail_cons]
  rw [shape, (quiet_tableMarker false).bar (by decide)]
  exact ⟨opened, by decide⟩

/-- A declaration is one block, its statement. -/
theorem segment_text : Sql.segment declaration.text = [declaration.statement] := by
  have marked : (Sql.tableMarker? declaration.text).isSome = true := by
    simpa using declaration.marked_text []
  have cut : declaration.text.take declaration.statement.length = declaration.statement := by
    unfold text
    rw [List.take_left]
  rw [Sql.segment_of_single_marker marked declaration.single_marker_text, Sql.Block.declaration,
    Sql.Block.engine?, declaration.engine_text, Option.getD_some, cut,
    declaration.stripComments_statement]

end Declaration

end SchemaSeed
