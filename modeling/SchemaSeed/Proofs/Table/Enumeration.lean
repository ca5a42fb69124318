import SchemaSeed.Proofs.Column.Items
import SchemaSeed.Proofs.Lists
import SchemaSeed.Proofs.Sql.Value
import SchemaSeed.Proofs.Table.Reading
import SchemaSeed.Random.Scripted
import SchemaSeed.RowSet

/-! Literals of enumerations.  What is generated for such a column is always an item of its
definition, put between double quotes instead of those that it was written in.  It stands
for the same value if nothing in the item depends on the quotes around it: no quote stands
at an end, none inside is written without a backslash, and no blank but a single space.
Elsewhere the value may be another, or the literal none at all. -/

namespace SchemaSeed

/-! ## Definitions -/

namespace Sql

/-- The head of a block and the definitions of its body, as they were written. -/
def definitions (block : Text) : List Text :=
  match findGroup block 0 with
  | .ok (some group) =>
      block.take group.opening ::
        (splitTop "," (block.slice (group.opening + 1) group.closing)).toOption.getD []
  | _ => [block]

theorem exists_definition {block : Text} {candidates : List Text}
    (found : Sql.candidates block = .ok candidates) {candidate : Text}
    (member : candidate ∈ candidates) :
    ∃ definition ∈ definitions block, candidate = definition.collapse := by
  have among {pieces : List Text} (member : candidate ∈ tidied pieces) :
      ∃ definition ∈ pieces, candidate = definition.collapse := by
    rcases List.mem_map.mp (List.mem_filter.mp member).1 with ⟨piece, present, rfl⟩
    exact ⟨piece, present, rfl⟩
  simp only [Sql.candidates] at found
  cases grouped : findGroup block 0 with
  | error fault => simp [grouped] at found
  | ok group =>
      cases group with
      | none =>
          simp only [grouped, Except.ok.injEq] at found
          rw [← found] at member
          simpa only [definitions, grouped] using among member
      | some group =>
          cases split : splitTop "," (block.slice (group.opening + 1) group.closing) with
          | error fault =>
              simp only [grouped] at found
              rw [split] at found
              cases found
          | ok pieces =>
              simp only [grouped] at found
              rw [split] at found
              cases found
              simp only [definitions, grouped]
              rw [split]
              exact among member

end Sql

/-! ## Items in other quotes -/

namespace Column

/-- Content that is left as it is by what becomes of an item. -/
structure Survives (content : Text) : Prop where
  isolated : content.IsolatedSpaces
  starts : ∀ character, content.head? = some character → isStringQuote character = false
  ends : ∀ character, content.getLast? = some character → isStringQuote character = false

/-- An item whose value does not depend on which quotes stand around it. -/
inductive Requotable (item : Text) : Prop
  | double {content : Text} (written : item.strip = '"' :: content ++ ['"'])
      (survives : Survives content) (literal : (Sql.value? item.strip).isSome = true)
  | single {content : Text} (written : item.strip = '\'' :: content ++ ['\''])
      (survives : Survives content) (inSingle : Sql.Enclosed '\'' content)
      (inDouble : Sql.Enclosed '"' content)

theorem bare_of_survives {item content : Text} {quote : Char}
    (known : isStringQuote quote = true) (solid : Character.isBlank quote = false)
    (written : item.strip = quote :: content ++ [quote]) (survives : Survives content) :
    bare item = content := by
  rcases Text.gaps_of_isolatedSpaces survives.isolated false nofun with ⟨last, single⟩
  have whole : Text.gaps true (quote :: content ++ [quote]) = some false := by
    simp only [List.cons_append, Text.gaps, solid, Bool.false_eq_true, if_false]
    rw [Text.gaps_append, single]
    simp [Text.gaps, solid]
  have collapsed : item.collapse = quote :: content ++ [quote] := by
    rw [← Text.collapse_strip, written, Text.collapse_of_gaps whole]
  rw [bare, collapsed, Text.trim_between known known survives.starts survives.ends]

/-- An item and the literal that is generated for it have the same value. -/
def KeepsValue (item : Text) : Prop :=
  ∃ value, Sql.value? item.strip = some value ∧
    Sql.value? (Literal.quote (bare item)) = some value

theorem Requotable.keepsValue {item : Text} (requotable : Requotable item) : KeepsValue item := by
  cases requotable with
  | double written survives literal =>
      rcases Option.isSome_iff_exists.mp literal with ⟨value, same⟩
      refine ⟨value, same, ?_⟩
      rw [bare_of_survives (by decide) (by decide) written survives, Literal.quote, ← written,
        same]
  | single written survives inSingle inDouble =>
      rw [KeepsValue, bare_of_survives (by decide) (by decide) written survives, written]
      exact (Sql.value?_requoted_iff (by decide) rfl rfl).mpr ⟨inSingle, inDouble⟩

/-- Of the items whose content survives, no other keeps its value. -/
theorem requotable_of_keepsValue {item content : Text} {quote : Char}
    (written : item.strip = quote :: content ++ [quote]) (survives : Survives content)
    (keeps : KeepsValue item) : Requotable item := by
  have known : Column.isStringQuote quote = true := by
    rcases keeps with ⟨value, literal, -⟩
    rw [written, List.cons_append, Sql.value?] at literal
    split at literal
    · assumption
    · cases literal
  simp only [isStringQuote, Bool.or_eq_true, beq_iff_eq] at known
  rcases known with rfl | rfl
  · rw [KeepsValue, bare_of_survives (by decide) (by decide) written survives, written] at keeps
    rcases (Sql.value?_requoted_iff (by decide) rfl rfl).mp keeps with ⟨inSingle, inDouble⟩
    exact .single written survives inSingle inDouble
  · rcases keeps with ⟨value, literal, -⟩
    exact .double written survives (by rw [literal]; rfl)

end Column

/-! ## Generated literals -/

namespace Generator

variable {State : Type u} (generator : Generator State)

/-- One of the members is chosen, whatever the source answers. -/
theorem generate_enumeration {column : Column} (category : column.category = some .enumeration)
    (nonempty : column.members ≠ []) (state : State) :
    ∃ chosen ∈ column.members, ∃ after,
      generator.generate column state = (.ok (some (Literal.quote chosen)), after) := by
  rcases List.exists_cons_of_ne_nil nonempty with ⟨first, rest, members⟩
  have drawn : ∃ chosen ∈ column.members, ∃ after,
      generator.source.choose column.members state = (.ok chosen, after) := by
    rw [members]
    refine ⟨_, ?_, _, rfl⟩
    rw [List.getD_eq_getElem?_getD]
    cases found : (first :: rest)[(generator.source.position (rest.length + 1) state).1]? with
    | none => exact List.mem_cons_self
    | some chosen => exact List.mem_of_getElem? found
  rcases drawn with ⟨chosen, among, after, drawn⟩
  refine ⟨chosen, among, after, ?_⟩
  simp only [generate, category, literal, enumeration, drawn, Except.map]

/-- For a column of an enumeration, every literal is an item of its definition in double
quotes, and stands for the value of that item as it was written, if it can be requoted;
among the items whose content survives, only then. -/
theorem enumeration_literal_denotes_item {block : Text} {table : Table}
    (parsed : Table.parse block = .ok table) {column : Column} (member : column ∈ table.columns)
    (category : column.category = some .enumeration) (state : State) :
    ∃ definition ∈ Sql.definitions block,
      (Column.splitName definition).1 = some column.name ∧
      Column.classify definition.collapse = .ok column ∧
      ∃ item ∈ Column.items definition, ∃ after,
        generator.generate column state =
          (.ok (some (Literal.quote (Column.bare item))), after) ∧
        (Column.Requotable item → Column.KeepsValue item) ∧
        ∀ quote content, item.strip = quote :: content ++ [quote] → Column.Survives content →
          Column.KeepsValue item → Column.Requotable item := by
  rcases Table.exists_candidate parsed member with
    ⟨candidates, candidate, declaration, found, among, split, classified⟩
  rcases Sql.exists_definition found among with ⟨definition, present, rfl⟩
  rcases Column.splitName_squeezed split with ⟨original, originalSplit, -⟩
  rcases Column.members_eq_items (by rw [split]; rfl) classified category with
    ⟨members, nonempty⟩
  rcases generator.generate_enumeration category nonempty state with
    ⟨chosen, chosenMember, after, generated⟩
  rw [members] at chosenMember
  rcases List.mem_map.mp chosenMember with ⟨item, itemMember, rfl⟩
  exact ⟨definition, present, by rw [originalSplit], classified, item, itemMember, after,
    generated, Column.Requotable.keepsValue, fun _ _ => Column.requotable_of_keepsValue⟩

set_option maxRecDepth 8000 in
/-- A member with a comma, a parenthesis and an escaped quote. -/
theorem requoted_literal_denotes_item :
    let block : Text :=
      "CREATE TABLE `t` (`id` INT,\n `k` ENUM ( 'a, (b\\'c' ), PRIMARY KEY (`id`))"
    let column : Column := ⟨"k", some .enumeration, some 0, false, ["a, (b\\'c"]⟩
    let generator : Generator Script :=
      ⟨Policy.default, ⟨2024, 2, 29, 13, 45, 7⟩, Script.source⟩
    (Table.parse block).toOption = some ⟨"t", "id", [column]⟩ ∧
      ∃ definition ∈ Sql.definitions block, ∃ item ∈ Column.items definition,
        ∃ literal after value, generator.generate column ⟨#[7], 0⟩ = (.ok (some literal), after) ∧
          Sql.value? item.strip = some value ∧ Sql.value? literal = some value := by
  intro block column generator
  let content : Text := "a, (b".toList ++ '\\' :: '\'' :: ['c']
  have known : (Table.parse block).toOption = some ⟨"t", "id", [column]⟩ ∧
      ∀ definition ∈ Sql.definitions block,
        (Column.splitName definition).1 = some column.name →
          ∀ item ∈ Column.items definition, item.strip = '\'' :: content ++ ['\''] := by
    decide
  rcases known with ⟨read, items⟩
  have parsed := Table.parse_eq_ok_of_toOption read
  have survives : Column.Survives content := ⟨by decide, by decide, by decide⟩
  have inSingle : Sql.Enclosed '\'' content :=
    .append (.of_plain (by decide)) (.escaped (.of_plain (by decide)))
  have inDouble : Sql.Enclosed '"' content :=
    .append (.of_plain (by decide)) (.escaped (.of_plain (by decide)))
  rcases generator.enumeration_literal_denotes_item parsed List.mem_cons_self rfl ⟨#[7], 0⟩ with
    ⟨definition, present, named, -, item, written, after, generated, denotes, -⟩
  have stripped := items definition present named item written
  rcases denotes (.single stripped survives inSingle inDouble) with ⟨value, known, same⟩
  exact ⟨read, definition, present, item, written, _, after, value, generated, known, same⟩

set_option maxRecDepth 8000 in
/-- A double quote inside of single quotes ends the literal that is generated. -/
theorem quote_in_member_breaks_literal :
    let block : Text := "CREATE TABLE `t` (`id` INT, `c` ENUM('a\"b'), PRIMARY KEY (`id`))"
    let column : Column := ⟨"c", some .enumeration, some 0, false, ["a\"b"]⟩
    let definition : Text := " `c` ENUM('a\"b')"
    let generator : Generator Script :=
      ⟨Policy.default, ⟨2024, 2, 29, 13, 45, 7⟩, Script.source⟩
    (Table.parse block).toOption = some ⟨"t", "id", [column]⟩ ∧
      definition ∈ Sql.definitions block ∧ Column.items definition = [("'a\"b'" : Text)] ∧
      Sql.value? "'a\"b'" = some "a\"b".toList ∧
      (generator.generate column ⟨#[0], 0⟩).1.toOption = some (some "\"a\"b\"".toList) ∧
      Sql.value? "\"a\"b\"" = none := by
  decide

end Generator

end SchemaSeed
