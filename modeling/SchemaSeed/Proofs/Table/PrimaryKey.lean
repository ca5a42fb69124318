import SchemaSeed.Proofs.Sql.Behind
import SchemaSeed.Proofs.Table.Reading
import SchemaSeed.Proofs.Table.Schema
import SchemaSeed.Random.Scripted
import SchemaSeed.RowSet

/-! The primary key of a table.  The first clause of its own that names a key settles it,
and only without one the first column that is marked; where the marked columns stand does
not matter.  The key is sought in declarations whose literals are masked and excluded from
declarations as they are written, and both readings see the same names. -/

namespace SchemaSeed

universe u

namespace Sql

/-! ## First matches -/

/-- What a matcher makes of the first place at which it matches. -/
def FirstMatch (matcher : Text → Option α) (text : Text) (found : α) : Prop :=
  ∃ part rest, text = part ++ rest ∧ Silent matcher part rest ∧ matcher rest = some found

theorem search?_eq_some_iff {matcher : Text → Option α} (nothing : matcher [] = none)
    {text : Text} {found : α} :
    search? matcher text = some found ↔ FirstMatch matcher text found := by
  constructor
  · intro sought
    induction text with
    | nil => cases sought
    | cons character text induction =>
        rw [search?] at sought
        cases here : matcher (character :: text) with
        | some first =>
            rw [here, Option.some_or] at sought
            cases sought
            exact ⟨[], character :: text, rfl, trivial, here⟩
        | none =>
            rw [here, Option.none_or] at sought
            rcases induction sought with ⟨part, rest, rfl, silent, matched⟩
            exact ⟨character :: part, rest, rfl, ⟨here, silent⟩, matched⟩
  · rintro ⟨part, rest, rfl, silent, matched⟩
    induction part with
    | nil =>
        refine search?_of_match ?_ matched
        rintro rfl
        rw [nothing] at matched
        cases matched
    | cons character part induction =>
        rw [List.cons_append, search?, silent.1, Option.none_or]
        exact induction silent.2

theorem firstName?_eq_some_iff {text name : Text} :
    firstName? text = some name ↔ ∃ rest, FirstMatch quotedName? text (name, rest) := by
  rw [firstName?, Option.map_eq_some_iff]
  constructor
  · rintro ⟨⟨_, rest⟩, sought, rfl⟩
    exact ⟨rest, (search?_eq_some_iff rfl).mp sought⟩
  · rintro ⟨rest, first⟩
    exact ⟨(name, rest), (search?_eq_some_iff rfl).mpr first, rfl⟩

end Sql

namespace Reading

open Sql (FirstMatch)

/-! ## The name in front of a declaration -/

/-- The declaration starts with the name in backticks, blanks aside. -/
def Leads (name declaration : Text) : Prop :=
  Sql.IsName name ∧ ∃ gap rest, (∀ character ∈ gap, Character.isBlank character = true) ∧
    declaration = gap ++ (Sql.backtick :: name ++ [Sql.backtick]) ++ rest

theorem splitName_eq_some_iff {declaration name : Text} :
    (Column.splitName declaration).1 = some name ↔ Leads name declaration := by
  constructor
  · intro split
    simp only [Column.splitName] at split
    split at split
    · rename_i rest quoted
      cases split
      rcases Sql.quotedName?_eq_some quoted with ⟨nonempty, known, shape⟩
      refine ⟨⟨nonempty, known⟩, declaration.takeWhile Character.isBlank, rest,
        fun character member => List.mem_takeWhile_imp member, ?_⟩
      calc declaration
          _ = declaration.takeWhile Character.isBlank ++ declaration.skipBlanks :=
            List.takeWhile_append_dropWhile.symm
          _ = declaration.takeWhile Character.isBlank ++
              (Sql.backtick :: name ++ [Sql.backtick]) ++ rest := by
            rw [shape]
            simp
    · cases split
  · rintro ⟨proper, gap, rest, blank, rfl⟩
    have skipped : Text.skipBlanks (gap ++ (Sql.backtick :: name ++ [Sql.backtick]) ++ rest) =
        Sql.backtick :: name ++ Sql.backtick :: rest := by
      have solid : Character.isBlank Sql.backtick = false := by decide
      rw [Text.skipBlanks, List.append_assoc, List.dropWhile_append_of_pos blank]
      simp [solid]
    rw [Column.splitName, skipped, Sql.quotedName?_append proper.1 proper.2]

theorem splitName_eq_none_iff {declaration : Text} :
    (Column.splitName declaration).1 = none ↔ ∀ name, ¬ Leads name declaration := by
  rw [Option.eq_none_iff_forall_ne_some]
  exact forall_congr' fun name => not_congr splitName_eq_some_iff

/-- Masking the literals of a declaration leaves its name alone and brings none about. -/
theorem leads_mask {name declaration : Text} :
    Leads name (Sql.mask declaration) ↔ Leads name declaration := by
  have plain : Sql.IsName name → ∀ gap : Text,
      (∀ character ∈ gap, Character.isBlank character = true) →
      ∀ character ∈ gap ++ (Sql.backtick :: name ++ [Sql.backtick]),
        character ≠ '\'' ∧ character ≠ '"' := by
    intro proper gap blank character member
    have foreign : Sql.isNameCharacter '\'' = false ∧ Sql.isNameCharacter '"' = false := by decide
    have solid : Character.isBlank '\'' = false ∧ Character.isBlank '"' = false := by decide
    have different : Sql.backtick ≠ '\'' ∧ Sql.backtick ≠ '"' := by decide
    simp only [List.mem_append, List.mem_cons, List.not_mem_nil, or_false] at member
    rcases member with inGap | (rfl | inName) | rfl
    · constructor <;> rintro rfl <;> simp [blank _ inGap] at solid
    · exact different
    · have known := proper.2 character inName
      exact ⟨Sql.ne_of_isNameCharacter known foreign.1, Sql.ne_of_isNameCharacter known foreign.2⟩
    · exact different
  constructor
  · rintro ⟨proper, gap, rest, blank, masked⟩
    rcases Sql.append_of_mask_eq masked (plain proper gap blank) with ⟨behind, rfl, -⟩
    exact ⟨proper, gap, behind, blank, rfl⟩
  · rintro ⟨proper, gap, rest, blank, rfl⟩
    exact ⟨proper, gap, Sql.mask rest, blank, Sql.mask_append (plain proper gap blank) rest⟩

/-! ## What a declaration says about the key -/

/-- A clause of its own: no name stands in front, and the first name between the first
PRIMARY KEY and the next closing parenthesis is that of the key.  Literals are masked. -/
structure NamesKey (candidate key : Text) : Prop where
  unnamed : ∀ name, ¬ Leads name (Sql.mask candidate)
  named : ∃ behind rest, FirstMatch Sql.primaryKey? (Sql.mask candidate) behind ∧
    FirstMatch Sql.quotedName? (behind.takeWhile (· != ')')) (key, rest)

/-- A column that is marked as the key.  Literals are masked. -/
structure MarksKey (candidate key : Text) : Prop where
  leads : Leads key (Sql.mask candidate)
  marked : ∃ behind, FirstMatch Sql.primaryKey? (Sql.mask candidate) behind

/-- The first of several declarations for which something holds. -/
def FirstIn (holds : Text → Prop) (body : List Text) (candidate : Text) : Prop :=
  ∃ before after, body = before ++ candidate :: after ∧ holds candidate ∧
    ∀ earlier ∈ before, ¬ holds earlier

/-- The key of a body: the one that its first clause names or, without a clause, the first
column that is marked. -/
inductive KeyOf (body : List Text) (key : Text) : Prop
  | clause {candidate : Text} (first : FirstIn (fun other => ∃ name, NamesKey other name) body candidate)
      (names : NamesKey candidate key)
  | column {candidate : Text} (noClause : ∀ other ∈ body, ∀ name, ¬ NamesKey other name)
      (first : FirstIn (fun other => ∃ name, MarksKey other name) body candidate)
      (marks : MarksKey candidate key)

section FirstIn

variable {holds : Text → Prop} {body : List Text} {candidate : Text}

theorem firstIn_head (here : holds candidate) : FirstIn holds (candidate :: body) candidate :=
  ⟨[], body, rfl, here, by simp⟩

theorem FirstIn.cons {other : Text} (first : FirstIn holds body candidate)
    (fails : ¬ holds other) : FirstIn holds (other :: body) candidate := by
  rcases first with ⟨before, after, rfl, here, earlier⟩
  exact ⟨other :: before, after, rfl, here, List.forall_mem_cons.mpr ⟨fails, earlier⟩⟩

end FirstIn

theorem keyMention_eq_clause_iff {candidate key : Text} :
    keyMention candidate = .clause key ↔ NamesKey candidate key := by
  constructor
  · intro mention
    simp only [keyMention] at mention
    split at mention
    · cases mention
    · rename_i behind sought
      split at mention
      · cases mention
      · rename_i unnamed
        split at mention
        · rename_i name found
          cases mention
          rcases Sql.firstName?_eq_some_iff.mp found with ⟨rest, first⟩
          exact ⟨splitName_eq_none_iff.mp unnamed, behind, rest,
            (Sql.search?_eq_some_iff rfl).mp sought, first⟩
        · cases mention
  · rintro ⟨unnamed, behind, rest, phrase, name⟩
    simp only [keyMention, (Sql.search?_eq_some_iff rfl).mpr phrase,
      splitName_eq_none_iff.mpr unnamed, Sql.firstName?_eq_some_iff.mpr ⟨rest, name⟩]

theorem keyMention_eq_inline_iff {candidate key : Text} :
    keyMention candidate = .inline key ↔ MarksKey candidate key := by
  constructor
  · intro mention
    simp only [keyMention] at mention
    split at mention
    · cases mention
    · rename_i behind sought
      split at mention
      · rename_i name named
        cases mention
        exact ⟨splitName_eq_some_iff.mp named, behind, (Sql.search?_eq_some_iff rfl).mp sought⟩
      · split at mention <;> cases mention
  · rintro ⟨leads, behind, phrase⟩
    simp only [keyMention, (Sql.search?_eq_some_iff rfl).mpr phrase,
      splitName_eq_some_iff.mpr leads]

/-- A key that comes out of a body is that of a clause, or was marked before, or is that of
the first marked column. -/
theorem primaryKeyFrom_eq_some {inline : Option Text} {body : List Text} {key : Text}
    (chosen : primaryKeyFrom inline body = some key) :
    (∃ candidate, FirstIn (fun other => ∃ name, NamesKey other name) body candidate ∧
      NamesKey candidate key) ∨
    (∀ other ∈ body, ∀ name, ¬ NamesKey other name) ∧
      (inline = some key ∨ inline = none ∧ ∃ candidate,
        FirstIn (fun other => ∃ name, MarksKey other name) body candidate ∧
          MarksKey candidate key) := by
  induction body generalizing inline with
  | nil => exact .inr ⟨by simp, .inl chosen⟩
  | cons candidate rest induction =>
      simp only [primaryKeyFrom] at chosen
      have clause := @keyMention_eq_clause_iff candidate
      have column := @keyMention_eq_inline_iff candidate
      cases mention : keyMention candidate with
      | silent =>
          simp only [mention, reduceCtorEq, false_iff] at chosen clause column
          rcases induction chosen with ⟨found, first, names⟩ | ⟨noClause, later⟩
          · exact .inl ⟨found, first.cons fun ⟨name, here⟩ => clause here, names⟩
          · refine .inr ⟨List.forall_mem_cons.mpr ⟨fun _ => clause, noClause⟩, ?_⟩
            rcases later with given | ⟨none, found, first, marks⟩
            · exact .inl given
            · exact .inr ⟨none, found, first.cons fun ⟨name, here⟩ => column here, marks⟩
      | inline name =>
          simp only [mention, reduceCtorEq, false_iff, KeyMention.inline.injEq]
            at chosen clause column
          rcases induction chosen with ⟨found, first, names⟩ | ⟨noClause, later⟩
          · exact .inl ⟨found, first.cons fun ⟨name, here⟩ => clause here, names⟩
          · refine .inr ⟨List.forall_mem_cons.mpr ⟨fun _ => clause, noClause⟩, ?_⟩
            cases inline with
            | some given => simpa using later
            | none =>
                have same : name = key := by simpa using later
                have marks := column.mp same
                exact .inr ⟨rfl, candidate, firstIn_head ⟨key, marks⟩, marks⟩
      | clause name =>
          simp only [mention, Option.some.injEq, KeyMention.clause.injEq] at chosen clause
          have names := clause.mp chosen
          exact .inl ⟨candidate, firstIn_head ⟨key, names⟩, names⟩

theorem keyOf_of_primaryKeyFrom {body : List Text} {key : Text}
    (chosen : primaryKeyFrom none body = some key) : KeyOf body key := by
  rcases primaryKeyFrom_eq_some chosen with ⟨candidate, first, names⟩ | ⟨noClause, later⟩
  · exact .clause first names
  · rcases later with given | ⟨-, candidate, first, marks⟩
    · cases given
    · exact .column noClause first marks

theorem KeyOf.isName {body : List Text} {key : Text} (keyOf : KeyOf body key) :
    Sql.IsName key := by
  cases keyOf with
  | clause first names =>
      rcases names.named with ⟨_, _, -, _, _, -, -, quoted⟩
      exact ⟨(Sql.quotedName?_eq_some quoted).1, (Sql.quotedName?_eq_some quoted).2.1⟩
  | column noClause first marks => exact marks.leads.1

/-- A plain column bears a name of its own. -/
theorem leads_of_isPlainColumn {primaryKey candidate : Text}
    (plain : isPlainColumn primaryKey candidate = true) :
    ∃ name, Leads name candidate ∧ name ≠ primaryKey ∧
      (Column.splitName candidate).1 = some name := by
  simp only [isPlainColumn] at plain
  split at plain
  · cases plain
  · split at plain
    · cases plain
    · rename_i name declaration split
      have named : (Column.splitName candidate).1 = some name := by rw [split]
      simp only [Bool.and_eq_true, bne_iff_ne] at plain
      exact ⟨name, splitName_eq_some_iff.mp named, plain.2, named⟩

end Reading

theorem Column.quotedName_eq (column : Column) :
    column.quotedName = Sql.backtick :: column.name ++ [Sql.backtick] := rfl

namespace Table

open Reading (Leads KeyOf)

/-- The declarations that give the columns of a table, one for each and in their order; none
is named like the key. -/
theorem declarations_of_parse {block : Text} {table : Table} (parsed : parse block = .ok table)
    {head : Text} {body : List Text} (found : Sql.candidates block = .ok (head :: body))
    (headless : Reading.isPlainColumn table.primaryKey head = false) :
    ∃ declarations, declarations.Sublist body ∧
      List.Forall₂ (fun declaration column => Leads column.name declaration ∧
        Column.classify declaration = .ok column ∧ column.name ≠ table.primaryKey)
        declarations table.columns := by
  rcases parse_eq_ok parsed with ⟨_, _, same, -, -, classified⟩
  cases found.symm.trans same
  rw [List.filter_cons_of_neg (by simp [headless])] at classified
  refine ⟨body.filter (Reading.isPlainColumn table.primaryKey), List.filter_sublist, ?_⟩
  have plain := (List.forall₂_and_left _ _).mpr
    ⟨fun declaration member => (List.mem_filter.mp member).2, classified⟩
  refine plain.imp fun declaration column ⟨plain, classified⟩ => ?_
  rcases Reading.leads_of_isPlainColumn plain with ⟨name, leads, different, split⟩
  have named : column.name = name := by
    rw [Column.name_of_classify classified, split, Option.getD_some]
  rw [named]
  exact ⟨leads, classified, different⟩

theorem isName_primaryKey {block : Text} {table : Table} (parsed : parse block = .ok table) :
    Sql.IsName table.primaryKey := by
  rcases parse_eq_ok parsed with ⟨head, body, -, -, chosen, -⟩
  exact (Reading.keyOf_of_primaryKeyFrom chosen).isName

/-- Rows bear no field for a name that no column has. -/
theorem not_mem_fields {Random : Type u} {table : Table} {name : Text}
    (absent : ∀ column ∈ table.columns, column.name ≠ name) (generator : Generator Random)
    (count : Nat) (random : Random) {rowSet : RowSet} {after : Random}
    (generated : generator.rowSet table count random = (.ok rowSet, after)) :
    Sql.backtick :: name ++ [Sql.backtick] ∉ rowSet.fields := by
  have fields : rowSet.fields = table.generated.map (·.quotedName) := by
    simp only [Generator.rowSet] at generated
    split at generated <;> cases generated
    rfl
  intro member
  rw [fields] at member
  rcases List.mem_map.mp member with ⟨column, among, quoted⟩
  rw [Column.quotedName_eq] at quoted
  have same : column.name = name := by simpa using quoted
  exact absent column (List.mem_filter.mp among).1 same

/-- The primary key of a table that was read is the one its first clause names, whatever
columns are marked, and without a clause the first marked column.  The columns stand for
declarations of the body that bear their names, one for each and in their order; none is
the key, and no generated row has a field for it. -/
theorem primary_key_is_never_written {Random : Type u} {block : Text} {table : Table}
    (marked : (Sql.tableMarker? block).isSome = true) (parsed : parse block = .ok table) :
    ∃ head body, Sql.candidates block = .ok (head :: body) ∧
      KeyOf body table.primaryKey ∧
      (∃ declarations, declarations.Sublist body ∧
        List.Forall₂ (fun declaration column =>
            Leads column.name (Sql.mask declaration) ∧ Column.classify declaration = .ok column)
          declarations table.columns) ∧
      (∀ column ∈ table.columns, column.name ≠ table.primaryKey) ∧
      ∀ (generator : Generator Random) (count : Nat) (random : Random) (rowSet : RowSet)
        (after : Random), generator.rowSet table count random = (.ok rowSet, after) →
          Sql.backtick :: table.primaryKey ++ [Sql.backtick] ∉ rowSet.fields := by
  rcases parse_eq_ok parsed with ⟨head, body, found, -, chosen, -⟩
  -- The head starts with a letter of the marker, so it gives no column.
  have headless : Reading.isPlainColumn table.primaryKey head = false := by
    rcases Option.isSome_iff_exists.mp marked with ⟨rest, matched⟩
    rcases Sql.head_of_tableMarker? matched with ⟨character, tail, rfl, spelled⟩
    have solid := Character.isBlank_eq_false_of_spells (by decide) spelled
    have letter : Sql.IsMarkerCharacter character := .inr ⟨'c', by decide, spelled⟩
    rcases Sql.candidates_of_solid_head solid (letter.ne (by decide) (by decide)) found with
      ⟨headTail, _, equal⟩
    cases equal
    exact Reading.isPlainColumn_eq_false_of_head solid (letter.ne (by decide) (by decide)) _ _
  rcases declarations_of_parse parsed found headless with ⟨declarations, sublist, declared⟩
  have absent : ∀ column ∈ table.columns, column.name ≠ table.primaryKey := by
    intro column member
    rcases exists_of_mem_right declared member with ⟨_, _, -, -, different⟩
    exact different
  refine ⟨head, body, found, Reading.keyOf_of_primaryKeyFrom chosen,
    ⟨declarations, sublist, declared.imp fun _ _ declares => ?_⟩, absent, ?_⟩
  · exact ⟨Reading.leads_mask.mpr declares.1, declares.2.1⟩
  · intro generator count random rowSet after generated
    exact not_mem_fields absent generator count random generated

/-- A column marked as the key comes first, and a literal that speaks of a key; the clause
settles the key all the same. -/
theorem clause_wins_over_marked_column :
    let block : Text := "CREATE TABLE `t` (`a` INT PRIMARY KEY, " ++
      "`b` INT COMMENT 'PRIMARY KEY (`a`)', PRIMARY KEY USING BTREE (`id`, `c`), `id` INT)"
    let table : Table := ⟨"t", "id", [⟨"b", some .int32, some 0, false, []⟩]⟩
    parse block = .ok table ∧
      ∃ head body, Sql.candidates block = .ok (head :: body) ∧ KeyOf body table.primaryKey := by
  intro block table
  have parsed : parse block = .ok table := by
    set_option maxRecDepth 4000 in
    exact parse_eq_ok_of_toOption (by decide)
  have settled := @primary_key_is_never_written Script block table (by decide) parsed
  rcases settled with ⟨head, body, found, key, -⟩
  exact ⟨parsed, head, body, found, key⟩

end Table

end SchemaSeed
