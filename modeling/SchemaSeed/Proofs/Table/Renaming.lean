import SchemaSeed.Proofs.Sql.RenamedPieces
import SchemaSeed.Proofs.Table.Quiet
import SchemaSeed.Proofs.Table.Reading

/-! Names of columns mean nothing.  A block in which the quoted names are replaced by others
is read as the same table under those names, wherever the names stand: in clauses of their
own, in literals, in what follows the parentheses.  There is one exception.  What follows the
name of a column in its own declaration is searched for words as it is, and a name quoted
there, by a check or a generated value, is read as such a word. -/

namespace SchemaSeed

open Sql

/-! ## Renamed tables -/

namespace Column

/-- The column under another name; so are names that its members quote. -/
def rename (newName : Text → Text) (column : Column) : Column :=
  { column with
    name := newName column.name
    members := column.members.map (Sql.rename newName) }

theorem members_rename {newName : Text → Text} {column : Column}
    (unquoted : ∀ member ∈ column.members, ∀ character ∈ member, character ≠ backtick) :
    (column.rename newName).members = column.members := by
  have kept : ∀ member ∈ column.members, Sql.rename newName member = member :=
    fun member among => rename_of_unquoted (unquoted member among)
  rw [rename, List.map_congr_left kept, List.map_id']

end Column

namespace Table

def rename (newName : Text → Text) (table : Table) : Table :=
  ⟨newName table.name, newName table.primaryKey, table.columns.map (Column.rename newName)⟩

end Table

namespace Sql

/-- The names quoted in the declarations of a block behind the names of their columns. -/
def mentionedNames (block : Text) : List Text :=
  ((candidates block).toOption.getD []).flatMap fun candidate =>
    match Column.splitName candidate with
    | (some _, rest) => quotedNames rest
    | (none, _) => []

theorem mem_mentionedNames {block : Text} {found : List Text}
    (read : candidates block = .ok found) {candidate name rest : Text}
    (member : candidate ∈ found) (split : Column.splitName candidate = (some name, rest))
    {other : Text} (quoted : other ∈ quotedNames rest) : other ∈ mentionedNames block := by
  rw [mentionedNames, read]
  exact List.mem_flatMap.mpr ⟨candidate, member, by rw [split]; exact quoted⟩

end Sql

variable {known : Text → Prop} {newName : Text → Text} {before after : Text}

/-! ## Columns -/

namespace Column

theorem member_renamed (renamed : Renamed known newName before after) :
    member after = Sql.rename newName (member before) :=
  ((renamed.trim (by decide)).trim (by decide)).eq_rename

theorem map_member_renamed {written writtenAfter : List Text}
    (renamed : List.Forall₂ (Renamed known newName) written writtenAfter) :
    writtenAfter.map member = (written.map member).map (Sql.rename newName) := by
  induction renamed with
  | nil => rfl
  | cons here _ induction => simp only [List.map_cons, member_renamed here, induction]

theorem members?_renamed (renamed : Renamed known newName before after) {members : List Text}
    (found : members? before = some members) :
    members? after = some (members.map (Sql.rename newName)) := by
  have start : Scan.start.Reads false := reads_plain false 0
  have contents := renamed.content?
  rcases Option.map_eq_some_iff.mp found with ⟨content, read, rfl⟩
  rw [read] at contents
  rw [members?]
  generalize content? after = right at contents
  cases contents with
  | some same =>
      cases same with
      | none => rfl
      | @some content contentAfter inside =>
          have stripped : Renamed known newName content.strip contentAfter.strip :=
            inside.trim (by decide)
          have empty := stripped.isEmpty
          simp only [Option.map_some, empty]
          split
          · rfl
          · rw [map_member_renamed (inside.partsFrom start)]

theorem splitName_renamed (renamed : Renamed known newName before after) :
    ((splitName before).1 = none ∧ (splitName after).1 = none) ∨
      ∃ name rest restAfter, known name ∧ splitName before = (some name, rest) ∧
        splitName after = (some (newName name), restAfter) ∧
        Renamed known newName rest restAfter := by
  rw [splitName, splitName]
  rcases renamed.skipBlanks.quotedName? with
    ⟨unnamed, unnamedAfter⟩ | ⟨name, rest, restAfter, among, found, foundAfter, later⟩
  · rw [unnamed, unnamedAfter]
    exact .inl ⟨rfl, rfl⟩
  · rw [found, foundAfter]
    exact .inr ⟨name, _, _, among, rfl, rfl, later.skipBlanks⟩

theorem typeName?_renamed (renamed : Renamed known newName before after) :
    (typeName? before = none ∧ typeName? after = none) ∨
      ∃ typeName typeEnd typeEndAfter, typeName? before = some (typeName, typeEnd) ∧
        typeName? after = some (typeName, typeEndAfter) ∧
        Renamed known newName (before.drop typeEnd) (after.drop typeEndAfter) := by
  rcases renamed.skipBlanks.takeWhile isTypeCharacter (by decide) with
    ⟨same, behind⟩
  cases read : typeName? before with
  | none =>
      refine .inl ⟨rfl, ?_⟩
      simp only [typeName?, same] at read ⊢
      split at read
      · rename_i nothing
        rw [if_pos nothing]
      · cases read
  | some pair =>
      rcases pair with ⟨typeName, typeEnd⟩
      have dropped := drop_of_typeName? read
      cases readAfter : typeName? after with
      | none =>
          simp only [typeName?, same] at read readAfter
          split at readAfter
          · rename_i nothing
            rw [if_pos nothing] at read
            cases read
          · cases readAfter
      | some pairAfter =>
          rcases pairAfter with ⟨typeNameAfter, typeEndAfter⟩
          have droppedAfter := drop_of_typeName? readAfter
          have names : typeName = typeNameAfter := by
            simp only [typeName?, same] at read readAfter
            split at read
            · cases read
            · rename_i nonempty
              rw [if_neg nonempty] at readAfter
              cases read
              cases readAfter
              rfl
          subst names
          refine .inr ⟨typeName, typeEnd, typeEndAfter, rfl, rfl, ?_⟩
          rwa [dropped, droppedAfter]

theorem lengthDigits_renamed (renamed : Renamed known newName before after) :
    lengthDigits before = lengthDigits after := by
  have skipped := renamed.skipBlanks
  simp only [lengthDigits]
  generalize before.skipBlanks = left at skipped
  generalize after.skipBlanks = right at skipped
  cases skipped with
  | nil | name => rfl
  | @single character rest restAfter unnamed later =>
      by_cases opens : character = '('
      · subst opens
        exact (later.skipBlanks.takeWhile _ (by decide)).1
      · split
        · rename_i shape
          cases shape
          exact absurd rfl opens
        · split
          · rename_i shape
            cases shape
            exact absurd rfl opens
          · rfl

theorem ofCategory_renamed {declaration declarationAfter : Text} {typeEnd typeEndAfter : Nat}
    (renamed : Renamed known newName (declaration.drop typeEnd)
      (declarationAfter.drop typeEndAfter)) {name : Text} {unsigned : Bool}
    {category : Category} {column : Column}
    (read : ofCategory name unsigned declaration typeEnd category = .ok column) :
    ofCategory (newName name) unsigned declarationAfter typeEndAfter category =
      .ok (column.rename newName) := by
  have digits := lengthDigits_renamed renamed
  simp only [ofCategory, declaredLength, digits] at read ⊢
  split at read
  · cases read
    rename_i temporal
    rw [if_pos temporal]
    rfl
  · rename_i temporal
    rw [if_neg temporal]
    split at read
    · cases read
    · cases category with
      | enumeration =>
          simp only at read ⊢
          cases found : members? (declaration.drop typeEnd) with
          | none =>
              rcases membersFrom_of_members?_eq_none found with ⟨quote, failed⟩
              rw [failed] at read
              cases read
          | some members =>
              rw [membersFrom_of_members?_eq_some found] at read
              rw [membersFrom_of_members?_eq_some (members?_renamed renamed found)]
              cases members <;> cases read <;> rfl
      | _ => cases read; rfl

/-- A declaration is classified as it was if the names behind its own say the same to the
searches for words. -/
theorem classify_renamed (renamed : Renamed known newName before after) {name rest : Text}
    (split : splitName before = (some name, rest))
    (alike : ∀ other ∈ quotedNames rest, Alike other (newName other)) {column : Column}
    (read : classify before = .ok column) :
    classify after = .ok (column.rename newName) := by
  rcases splitName_renamed renamed with
    ⟨unnamed, -⟩ | ⟨_, _, restAfter, -, found, foundAfter, later⟩
  · rw [split] at unnamed
    cases unnamed
  · rw [split] at found
    cases found
    have unsigned := later.mem_quotedNames.mentionsUnsigned fun other among =>
      alike other among.2
    simp only [classify, split, foundAfter, ← unsigned, Option.getD_some] at read ⊢
    rcases typeName?_renamed later with
      ⟨untyped, untypedAfter⟩ | ⟨typeName, typeEnd, typeEndAfter, typed, typedAfter, behind⟩
    · rw [untyped] at read
      rw [untypedAfter]
      cases read
      rfl
    · rw [typed] at read
      rw [typedAfter]
      simp only [Option.bind_some] at read ⊢
      cases matched : matchKeyword typeName with
      | none =>
          rw [matched] at read
          cases read
          rfl
      | some keyword =>
          rw [matched] at read
          exact ofCategory_renamed behind read

end Column

/-! ## Tables -/

namespace Reading

theorem respects_search_phrase (letter : Char) (letters second : Text)
    (foreign : ∀ known ∈ letter :: letters ++ second, Character.spells known backtick = false) :
    Respects known newName (search? (phrase? (letter :: letters) second)) := by
  apply (respects_phrase foreign).search? (bars_phrase foreign (by decide)) rfl
  intro name proper
  apply occurs_eq_false_of_all (phrase?_eq_none_of_solid _ _)
  intro character member
  exact isBlank_of_isNameCharacter (proper.2 character member)

theorem respects_primaryKey : Respects known newName (search? primaryKey?) :=
  respects_search_phrase 'p' ['r', 'i', 'm', 'a', 'r', 'y'] "key" (by decide)

theorem occurs_tableMarker_renamed (renamed : Renamed known newName before after) :
    occurs tableMarker? before = occurs tableMarker? after := by
  have found := respects_search_phrase 'c' ['r', 'e', 'a', 't', 'e'] "table" (by decide) _ _ renamed
  change Option.Rel _ (search? tableMarker? before) (search? tableMarker? after) at found
  rw [occurs, occurs]
  generalize search? tableMarker? before = left at found
  generalize search? tableMarker? after = right at found
  cases found <;> rfl

namespace KeyMention

def rename (newName : Text → Text) : KeyMention → KeyMention
  | .silent => .silent
  | .inline name => .inline (newName name)
  | .clause name => .clause (newName name)

def name? : KeyMention → Option Text
  | .silent => none
  | .inline name | .clause name => some name

end KeyMention

theorem takeWhile_renamed (wanted : Char → Bool) (opening : wanted backtick = true)
    (inside : ∀ character, isNameCharacter character = true → wanted character = true)
    (renamed : Renamed known newName before after) :
    Renamed known newName (before.takeWhile wanted) (after.takeWhile wanted) := by
  have passes {name : Text} (proper : IsName name) (rest : Text) :
      (backtick :: name ++ backtick :: rest).takeWhile wanted =
        backtick :: name ++ backtick :: rest.takeWhile wanted := by
    have whole : ∀ character ∈ backtick :: name, wanted character = true := by
      rw [List.forall_mem_cons]
      exact ⟨opening, fun character member => inside character (proper.2 character member)⟩
    rw [List.takeWhile_append_of_pos whole, List.takeWhile_cons, if_pos opening]
  induction renamed with
  | nil => exact .nil
  | name proper among image _ induction =>
      rw [passes proper, passes image]
      exact .name proper among image induction
  | single unnamed _ induction =>
      rw [List.takeWhile_cons, List.takeWhile_cons]
      split
      · exact .single (quotedName?_of_shorter (List.takeWhile_prefix _) unnamed) induction
      · exact .nil

/-- A declaration says of the key what it said, under the other names. -/
theorem keyMention_renamed (renamed : Renamed known newName before after) :
    keyMention after = (keyMention before).rename newName ∧
      ∀ name, (keyMention before).name? = some name → known name := by
  have found := respects_primaryKey _ _ renamed.mask
  simp only [keyMention]
  generalize search? primaryKey? (Sql.mask before) = left at found
  generalize search? primaryKey? (Sql.mask after) = right at found
  cases found with
  | none => exact ⟨rfl, nofun⟩
  | some behind =>
      rcases Column.splitName_renamed renamed.mask with
        ⟨unnamed, unnamedAfter⟩ | ⟨name, rest, restAfter, among, split, splitAfter, -⟩
      · have span := takeWhile_renamed (· != ')') (by decide)
          (fun character proper => bne_iff_ne.mpr (ne_of_isNameCharacter proper (by decide))) behind
        simp only [unnamed, unnamedAfter]
        rcases span.firstName? with ⟨nothing, nothingAfter⟩ | ⟨name, among, first, firstAfter⟩
        · simp only [nothing, nothingAfter]
          exact ⟨rfl, nofun⟩
        · simp only [first, firstAfter]
          refine ⟨rfl, ?_⟩
          rintro _ ⟨⟩
          exact among
      · simp only [split, splitAfter]
        refine ⟨rfl, ?_⟩
        rintro _ ⟨⟩
        exact among

theorem primaryKeyFrom_renamed {body bodyAfter : List Text}
    (renamed : List.Forall₂ (Renamed known newName) body bodyAfter) (inline : Option Text)
    (among : ∀ name, inline = some name → known name) :
    primaryKeyFrom (inline.map newName) bodyAfter =
        (primaryKeyFrom inline body).map newName ∧
      ∀ name, primaryKeyFrom inline body = some name → known name := by
  induction renamed generalizing inline with
  | nil => exact ⟨rfl, among⟩
  | @cons candidate candidateAfter _ _ here _ induction =>
      rcases keyMention_renamed here with ⟨same, names⟩
      simp only [primaryKeyFrom, same]
      cases mention : keyMention candidate with
      | silent => exact induction inline among
      | inline name =>
          have next : ∀ other, inline.or (some name) = some other → known other := by
            intro other found
            cases inline with
            | none =>
                cases found
                exact names name (by rw [mention]; rfl)
            | some first => exact among other found
          have later := induction _ next
          cases inline <;> exact later
      | clause name =>
          refine ⟨rfl, ?_⟩
          rintro _ ⟨⟩
          exact names name (by rw [mention]; rfl)

/-- The names behind the name of a candidate say to the searches for words what those say
that replace them. -/
def NamesAlike (newName : Text → Text) (candidate : Text) : Prop :=
  ∀ name rest, Column.splitName candidate = (some name, rest) →
    ∀ other ∈ quotedNames rest, Alike other (newName other)

section Columns

variable (injective : ∀ first second, known first → known second →
  newName first = newName second → first = second)

include injective

theorem isPlainColumn_renamed {primaryKey : Text} (key : known primaryKey)
    (renamed : Renamed known newName before after) (alike : NamesAlike newName before) :
    isPlainColumn (newName primaryKey) after = isPlainColumn primaryKey before := by
  simp only [isPlainColumn, ← occurs_tableMarker_renamed renamed]
  split
  · rfl
  · rcases Column.splitName_renamed renamed with
      ⟨unnamed, unnamedAfter⟩ | ⟨name, rest, restAfter, among, split, splitAfter, later⟩
    · rcases split : Column.splitName before with ⟨name, rest⟩
      rcases splitAfter : Column.splitName after with ⟨nameAfter, restAfter⟩
      rw [split] at unnamed
      rw [splitAfter] at unnamedAfter
      cases unnamed
      cases unnamedAfter
      rfl
    · have masked := later.mem_quotedNames.mask
      have alikeNames := fun other (among : known other ∧ other ∈ quotedNames rest) =>
        alike name rest split other among.2
      have names : (newName name != newName primaryKey) = (name != primaryKey) := by
        rw [Bool.eq_iff_iff, bne_iff_ne, bne_iff_ne]
        exact not_congr ⟨injective name primaryKey among key, congrArg newName⟩
      simp only [split, splitAfter, masked.mentionsKey alikeNames,
        masked.mentionsTimestamp alikeNames, names]

theorem columnsOf_renamed {primaryKey : Text} (key : known primaryKey)
    {candidates candidatesAfter : List Text}
    (renamed : List.Forall₂ (Renamed known newName) candidates candidatesAfter)
    (alike : ∀ candidate ∈ candidates, NamesAlike newName candidate)
    {columns : List Column} {skipped : List Text}
    (read : columnsOf primaryKey candidates = .ok (columns, skipped)) :
    ∃ skippedAfter, columnsOf (newName primaryKey) candidatesAfter =
      .ok (columns.map (Column.rename newName), skippedAfter) := by
  induction renamed generalizing columns skipped with
  | nil =>
      cases read
      exact ⟨[], rfl⟩
  | @cons candidate candidateAfter rest _ here _ induction =>
      rw [List.forall_mem_cons] at alike
      have plain := isPlainColumn_renamed injective key here alike.1
      rcases columnsOf_cons_eq_ok read with
        ⟨others, skippedOthers, later, ⟨isPlain, -, column, classified, rfl⟩ | ⟨isPlain, -, rfl⟩⟩
      · rcases induction alike.2 later with ⟨skippedAfter, laterAfter⟩
        have named : ∃ name declaration,
            Column.splitName candidate = (some name, declaration) := by
          rcases split : Column.splitName candidate with ⟨name, declaration⟩
          cases name with
          | none => simp [isPlainColumn, split] at isPlain
          | some name => exact ⟨name, declaration, rfl⟩
        rcases named with ⟨name, declaration, split⟩
        have classifiedAfter :=
          Column.classify_renamed here split (alike.1 name declaration split) classified
        refine ⟨skippedAfter, ?_⟩
        simp only [columnsOf, plain, isPlain, if_true, classifiedAfter, laterAfter, List.map_cons]
      · rcases induction alike.2 later with ⟨skippedAfter, laterAfter⟩
        refine ⟨candidateAfter :: skippedAfter, ?_⟩
        simp only [columnsOf, plain, isPlain, Bool.false_eq_true, if_false, laterAfter]

end Columns

end Reading

namespace Table

/-- A block whose names are replaced, different ones by different ones, is read as the same
table under the new names. -/
theorem parse_renamed {block : Text} {table : Table} (parsed : parse block = .ok table)
    (images : ∀ name ∈ quotedNames block, IsName (newName name))
    (injective : ∀ first second, first ∈ quotedNames block → second ∈ quotedNames block →
      newName first = newName second → first = second)
    (alike : ∀ name ∈ mentionedNames block, Alike name (newName name)) :
    parse (Sql.rename newName block) = .ok (table.rename newName) := by
  have renamed := renamed_rename images
  rw [parse, Reading.ofBlock] at parsed ⊢
  cases read : candidates block with
  | error fault => simp [read, Except.map] at parsed
  | ok found =>
      rcases renamed.candidates read with ⟨foundAfter, readAfter, same⟩
      have alikeNames : ∀ candidate ∈ found, Reading.NamesAlike newName candidate :=
        fun candidate member name rest split other quoted =>
          alike other (mem_mentionedNames read member split quoted)
      rw [read] at parsed
      rw [readAfter]
      cases same with
      | nil => simp [Reading.ofCandidates, Except.map] at parsed
      | @cons head headAfter body bodyAfter here later =>
          simp only [Reading.ofCandidates] at parsed ⊢
          rcases here.firstName? with ⟨nameless, -⟩ | ⟨name, -, first, firstAfter⟩
          · simp [nameless, Except.map] at parsed
          · have unmarked : ∀ name, none = some name → name ∈ quotedNames block := by simp
            rcases Reading.primaryKeyFrom_renamed later none unmarked with ⟨keys, names⟩
            rw [Option.map_none] at keys
            cases key : Reading.primaryKeyFrom none body with
            | none => simp [first, key, Except.map] at parsed
            | some primaryKey =>
                rw [key, Option.map_some] at keys
                cases columns : Reading.columnsOf primaryKey (head :: body) with
                | error fault => simp [first, key, columns, Except.map] at parsed
                | ok found =>
                    rcases Reading.columnsOf_renamed injective (names primaryKey key)
                      (.cons here later) alikeNames columns with ⟨skipped, columnsAfter⟩
                    simp only [first, key, columns, Except.map, Except.ok.injEq] at parsed
                    subst parsed
                    simp only [firstAfter, keys, columnsAfter, Except.map]
                    rfl

/-- One name in place of another. -/
def replacing (old new name : Text) : Text :=
  if name = old then new else name

/-- The name of a column can be replaced by any other that does not occur in the block; the
block is then read as the same table under that name, and no member of an enumeration changes
that quotes no name itself.  If the name is also quoted in the declaration of a column behind
its name, the two names have to say the same to the searches for words. -/
theorem column_name_is_arbitrary {block : Text} {table : Table}
    (parsed : parse block = .ok table) {old new : Text} (proper : IsName new)
    (fresh : new ∉ quotedNames block) (alike : old ∈ mentionedNames block → Alike old new) :
    parse (Sql.rename (replacing old new) block) = .ok (table.rename (replacing old new)) ∧
      ∀ column ∈ table.columns,
        (∀ member ∈ column.members, ∀ character ∈ member, character ≠ backtick) →
          (column.rename (replacing old new)).members = column.members := by
  refine ⟨parse_renamed parsed ?_ ?_ ?_, fun _ _ => Column.members_rename⟩
  · intro name quoted
    rw [replacing]
    split
    · exact proper
    · exact isName_of_mem_quotedNames quoted
  · intro first second quotedFirst quotedSecond same
    simp only [replacing] at same
    split at same <;> split at same
    · rw [‹first = old›, ‹second = old›]
    · exact absurd (same ▸ quotedSecond) fresh
    · exact absurd (same ▸ quotedFirst) fresh
    · exact same
  · intro name mentioned
    rw [replacing]
    split
    · rename_i same
      subst same
      exact alike mentioned
    · exact .refl name

set_option maxRecDepth 8000 in
/-- A column KEY takes a name that says UNSIGNED, in its declaration and in a constraint. -/
theorem key_column_is_renamed :
    let block : Text := "CREATE TABLE `t` (`id` INT, `key` ENUM('x'), " ++
      "`a` INT REFERENCES `u` (`id`), CONSTRAINT `c` CHECK (`key` > 0), PRIMARY KEY (`id`))"
    let declared (name : Text) : Table :=
      ⟨"t", "id", [⟨name, some .enumeration, some 0, false, ["x"]⟩,
        ⟨"a", some .int32, some 0, false, []⟩]⟩
    parse block = .ok (declared "key") ∧ IsName "unsigned-x" ∧
      ("unsigned-x" : Text) ∉ quotedNames block ∧
      (("key" : Text) ∈ mentionedNames block → Alike "key" "unsigned-x") ∧
      parse (Sql.rename (replacing "key" "unsigned-x") block) = .ok (declared "unsigned-x") := by
  intro block declared
  have parsed : parse block = .ok (declared "key") :=
    parse_eq_ok_of_toOption (by decide)
  have proper : IsName "unsigned-x" := by decide
  have fresh : ("unsigned-x" : Text) ∉ quotedNames block := by decide
  have unmentioned : ("key" : Text) ∉ mentionedNames block := by decide
  have alike : ("key" : Text) ∈ mentionedNames block → Alike "key" "unsigned-x" :=
    fun mentioned => absurd mentioned unmentioned
  have renamed := (column_name_is_arbitrary parsed proper fresh alike).1
  exact ⟨parsed, proper, fresh, alike, renamed⟩

set_option maxRecDepth 8000 in
/-- A check behind the name of a column is read: there the name KEY makes the declaration
look like that of a key. -/
theorem name_in_check_is_read :
    ¬ ∀ (block : Text) (table : Table) (old new : Text), parse block = .ok table →
      (∃ column ∈ table.columns, column.name = old) → IsName new → new ∉ quotedNames block →
        parse (Sql.rename (replacing old new) block) = .ok (table.rename (replacing old new)) := by
  intro arbitrary
  let block : Text :=
    "CREATE TABLE `t` (`id` INT, `a` INT CHECK (`key` > 0), `key` INT, PRIMARY KEY (`id`))"
  let key : Column := ⟨"key", some .int32, some 0, false, []⟩
  have parsed : parse block = .ok ⟨"t", "id", [key]⟩ :=
    parse_eq_ok_of_toOption (by decide)
  have renamed := arbitrary block ⟨"t", "id", [key]⟩ "key" "total" parsed
    ⟨key, List.mem_cons_self, rfl⟩ (by decide) (by decide)
  -- Under another name the check hides its column no longer.
  have both : (parse (Sql.rename (replacing "key" "total") block)).toOption =
      some ⟨"t", "id", [⟨"a", some .int32, some 0, false, []⟩,
        ⟨"total", some .int32, some 0, false, []⟩]⟩ := by
    decide
  rw [renamed] at both
  exact absurd both (by decide)

end Table

end SchemaSeed
