import SchemaSeed.Proofs.Column.Case
import SchemaSeed.Proofs.Sql.Recased
import SchemaSeed.Proofs.Table.Order
import SchemaSeed.Proofs.Table.PrimaryKey

/-! Letter case in tables.  Two candidates that differ in nothing but case, and not in the
name with which they start, are kept or passed over alike and mark the same key; of two blocks
that differ in case outside of quotes all candidates are such pairs. -/

namespace SchemaSeed

open Sql Text

/-- The table without the text of the members of its columns. -/
def Table.outline (table : Table) : Table :=
  { table with columns := table.columns.map Column.outline }

namespace Reading

/-! ## Candidates -/

/-- Two candidates that differ in case alone, and not in the name in front. -/
structure Recast (candidate other : Text) : Prop where
  same : uncased candidate = uncased other
  leading : (Column.splitName candidate).1 = (Column.splitName other).1

theorem splitName_mask (candidate : Text) :
    (Column.splitName (mask candidate)).1 = (Column.splitName candidate).1 := by
  apply Option.ext
  intro name
  rw [splitName_eq_some_iff, leads_mask, ← splitName_eq_some_iff]

/-- A column is marked as the key by its own name. -/
theorem inline?_keyMention (candidate : Text) :
    (keyMention candidate).inline? =
      if occurs primaryKey? (mask candidate) then (Column.splitName candidate).1 else none := by
  have leading := splitName_mask candidate
  rw [keyMention, occurs]
  cases search? primaryKey? (mask candidate) with
  | none => rfl
  | some after =>
      simp only [leading, Option.isSome_some, if_true]
      cases (Column.splitName candidate).1 with
      | some name => rfl
      | none =>
          simp only
          split <;> rfl

namespace Recast

variable {candidate other : Text} (recast : Recast candidate other)

include recast

theorem inline?_eq : (keyMention candidate).inline? = (keyMention other).inline? := by
  have marked : occurs primaryKey? (mask candidate) = occurs primaryKey? (mask other) := by
    have masked := congrArg (fun text => search? primaryKey? (mask text)) recast.same
    simp only [mask_uncased, search?_primaryKey?_uncased] at masked
    rw [occurs, occurs, ← @Option.isSome_map _ _ uncased, masked, Option.isSome_map]
  rw [inline?_keyMention, inline?_keyMention, marked, recast.leading]

theorem declaration :
    uncased (Column.splitName candidate).2 = uncased (Column.splitName other).2 := by
  have split := congrArg (fun text => (Column.splitName text).2) recast.same
  rwa [Column.splitName_uncased, Column.splitName_uncased] at split

theorem isPlainColumn_eq (primaryKey : Text) :
    isPlainColumn primaryKey candidate = isPlainColumn primaryKey other := by
  have marker : occurs tableMarker? candidate = occurs tableMarker? other := by
    rw [← occurs_tableMarker?_uncased, recast.same, occurs_tableMarker?_uncased]
  have masked : uncased (mask (Column.splitName candidate).2) =
      uncased (mask (Column.splitName other).2) := by
    rw [← mask_uncased, recast.declaration, mask_uncased]
  have key := congrArg mentionsKey masked
  have timestamp := congrArg mentionsTimestamp masked
  rw [mentionsKey_uncased, mentionsKey_uncased] at key
  rw [mentionsTimestamp_uncased, mentionsTimestamp_uncased] at timestamp
  have leading := recast.leading
  rw [isPlainColumn, isPlainColumn, marker]
  rcases split : Column.splitName candidate with ⟨name, rest⟩
  rcases splitOther : Column.splitName other with ⟨nameOther, restOther⟩
  rw [split, splitOther] at key timestamp leading
  cases leading
  cases name with
  | none => rfl
  | some name => simp only [key, timestamp]

theorem classify_outline {primaryKey : Text} (plain : isPlainColumn primaryKey candidate = true) :
    Agree ((Column.classify candidate).map Column.outline)
      ((Column.classify other).map Column.outline) := by
  have named : (Column.splitName candidate).1 ≠ none := by
    intro unnamed
    rw [isPlainColumn_eq_false_of_unnamed unnamed] at plain
    cases plain
  rcases Option.ne_none_iff_exists'.mp named with ⟨name, split⟩
  exact Column.classify_outline (Prod.ext split rfl)
    (Prod.ext (recast.leading.symm.trans split) rfl) recast.declaration

end Recast

section Lists

variable {first second : List Text} (recast : List.Forall₂ Recast first second)

include recast

theorem primaryKeyFrom_recast
    (clause : (first.findSome? fun candidate => (keyMention candidate).clause?) =
      second.findSome? fun candidate => (keyMention candidate).clause?) :
    primaryKeyFrom none first = primaryKeyFrom none second := by
  have marked : (first.filterMap fun candidate => (keyMention candidate).inline?) =
      second.filterMap fun candidate => (keyMention candidate).inline? := by
    clear clause
    induction recast with
    | nil => rfl
    | cons here _ induction =>
        rw [List.filterMap_cons, List.filterMap_cons, here.inline?_eq, induction]
  rw [primaryKeyFrom_eq, primaryKeyFrom_eq, List.head?_filterMap, clause, marked,
    ← List.head?_filterMap]

theorem columnsOf_outline (primaryKey : Text) :
    Agree (((columnsOf primaryKey first).map (·.1)).map (List.map Column.outline))
      (((columnsOf primaryKey second).map (·.1)).map (List.map Column.outline)) := by
  have outlined (read : Except Fault Column) (rest : Except Fault (List Column)) :
      (read.bind fun column => rest.map (column :: ·)).map (List.map Column.outline) =
        (read.map Column.outline).bind fun column =>
          (rest.map (List.map Column.outline)).map (column :: ·) := by
    cases read with
    | error fault => rfl
    | ok column => cases rest <;> rfl
  induction recast with
  | nil => exact .refl _
  | @cons candidate other rest restOther here later induction =>
      rw [columnsOf_cons, columnsOf_cons, ← here.isPlainColumn_eq]
      split
      · rename_i plain
        rw [outlined, outlined]
        exact (here.classify_outline plain).bind fun column => induction.map (column :: ·)
      · exact induction

end Lists

/-- What is read from candidates that differ in case alone, provided that the names are the
same. -/
theorem ofCandidates_outline {head other : Text} {first second : List Text}
    (names : firstName? head = firstName? other) (recast : Recast head other)
    (later : List.Forall₂ Recast first second)
    (clause : (first.findSome? fun candidate => (keyMention candidate).clause?) =
      second.findSome? fun candidate => (keyMention candidate).clause?) :
    Agree (((ofCandidates (head :: first)).map (·.table)).map Table.outline)
      (((ofCandidates (other :: second)).map (·.table)).map Table.outline) := by
  rw [table_ofCandidates, table_ofCandidates, names, primaryKeyFrom_recast later clause]
  cases firstName? other with
  | none => exact .error rfl
  | some name =>
      cases primaryKeyFrom none second with
      | none => exact .refl _
      | some primaryKey =>
          have columns := columnsOf_outline (.cons recast later) primaryKey
          have outlined (read : Except Fault (List Column)) :
              (read.map (Table.mk name primaryKey)).map Table.outline =
                (read.map (List.map Column.outline)).map (Table.mk name primaryKey) := by
            cases read <;> rfl
          simp only [outlined]
          exact columns.map (Table.mk name primaryKey)

/-! ## Clauses -/

/-- A clause names the first name behind its words PRIMARY KEY. -/
theorem clause?_keyMention (candidate : Text) :
    (keyMention candidate).clause? =
      (search? primaryKey? (mask candidate)).bind fun after =>
        if (Column.splitName candidate).1.isSome then none
        else firstName? (after.takeWhile (· != ')')) := by
  have leading := splitName_mask candidate
  rw [keyMention]
  cases search? primaryKey? (mask candidate) with
  | none => rfl
  | some after =>
      simp only [leading, Option.bind_some]
      cases (Column.splitName candidate).1 with
      | some name => rfl
      | none =>
          simp only [Option.isSome_none, Bool.false_eq_true, if_false]
          cases firstName? (after.takeWhile (· != ')')) <;> rfl

theorem takeWhile_closing_uncased (text : Text) :
    (uncased text).takeWhile (· != ')') = uncased (text.takeWhile (· != ')')) := by
  apply takeWhile_uncased
  exact @Character.apply_toLower _ (· != ')') (by decide)

theorem isSome_clause?_eq {candidate other : Text} (same : uncased candidate = uncased other) :
    (keyMention candidate).clause?.isSome = (keyMention other).clause?.isSome := by
  have lowered (text : Text) :
      (keyMention (uncased text)).clause? = (keyMention text).clause?.map uncased := by
    rw [clause?_keyMention, clause?_keyMention, mask_uncased, search?_primaryKey?_uncased,
      Column.splitName_uncased]
    cases search? primaryKey? (mask text) with
    | none => rfl
    | some after =>
        simp only [Option.map_some, Option.bind_some, Prod.map_fst, Option.isSome_map,
          takeWhile_closing_uncased, firstName?_uncased]
        split <;> rfl
  have alike := congrArg (fun text => (keyMention text).clause?.isSome) same
  simpa only [lowered, Option.isSome_map] using alike

theorem clause?_of_namesKept {candidate other : Text} (kept : NamesKept candidate other) :
    (keyMention candidate).clause? = (keyMention other).clause? := by
  have same := kept.uncased_eq
  have leading : (Column.splitName candidate).1.isSome = (Column.splitName other).1.isSome := by
    have alike := congrArg (fun text => (Column.splitName text).1.isSome) same
    simpa only [Column.splitName_uncased, Prod.map_fst, Option.isSome_map] using alike
  have found := congrArg (fun text => search? primaryKey? (mask text)) same
  simp only [mask_uncased, search?_primaryKey?_uncased] at found
  rw [clause?_keyMention, clause?_keyMention, leading]
  cases here : search? primaryKey? (mask candidate) with
  | none =>
      rw [here, Option.map_none, eq_comm, Option.map_eq_none_iff] at found
      rw [found]
  | some after =>
      rw [here, Option.map_some, eq_comm, Option.map_eq_some_iff] at found
      rcases found with ⟨afterOther, there, alike⟩
      have suffix (text rest : Text) : primaryKey? text = some rest → rest <:+ text :=
        phrase?_suffix
      have lengths := congrArg List.length alike
      have lengthsCut := congrArg (fun text => (text.takeWhile (· != ')')).length) alike
      simp only [takeWhile_closing_uncased, length_uncased] at lengths lengthsCut
      have behind : NamesKept after afterOther :=
        kept.mask.restrict_behind (search?_suffix suffix here) (search?_suffix suffix there)
          lengths.symm
      have cut : NamesKept (after.takeWhile (· != ')')) (afterOther.takeWhile (· != ')')) :=
        behind.restrict_front (List.takeWhile_prefix _) (List.takeWhile_prefix _) lengthsCut.symm
      rw [there, Option.bind_some, Option.bind_some, cut.firstName?_eq]

/-! ## Names -/

/-- The names that are read behind the front of a declaration: that of the table, in its
head, and that of the key, in the first key clause. -/
def namesRead (block : Text) : Option Text × Option Text :=
  match candidates block with
  | .ok (head :: body) =>
      (firstName? head, body.findSome? fun candidate => (keyMention candidate).clause?)
  | _ => (none, none)

/-- The pieces of a block in which these names stand. -/
def namingPieces (block : Text) : List Text :=
  match ((pieces? block).getD []).filter (!·.collapse.isEmpty) with
  | [] => []
  | head :: body =>
      head :: (body.find? fun piece => (keyMention piece.collapse).clause?.isSome).toList

theorem tidied_eq (pieces : List Text) :
    tidied pieces = (pieces.filter (!·.collapse.isEmpty)).map collapse :=
  List.filter_map

theorem filter_recased {pieces others : List Text}
    (recased : List.Forall₂ (Recased .plain) pieces others) :
    List.Forall₂ (Recased .plain) (pieces.filter (!·.collapse.isEmpty))
      (others.filter (!·.collapse.isEmpty)) := by
  induction recased with
  | nil => exact .nil
  | @cons piece other _ _ here _ induction =>
      have empty : other.collapse.isEmpty = piece.collapse.isEmpty := by
        rw [← isEmpty_uncased, ← collapse_uncased, ← here.uncased_eq, collapse_uncased,
          isEmpty_uncased]
      rw [List.filter_cons, List.filter_cons, empty]
      split
      · exact .cons here induction
      · exact induction

theorem recast_of_recased {piece other : Text} (recased : Recased .plain piece other) :
    Recast piece.collapse other.collapse where
  same := by rw [← collapse_uncased, recased.uncased_eq, collapse_uncased]
  leading := by
    rw [splitName_fst_collapse, splitName_fst_recased recased, splitName_fst_collapse]

theorem namesKept_of_apart {piece other : Text} (recased : Recased .plain piece other)
    (apart : ¬ ReadsBetween piece) : NamesKept piece.collapse other.collapse := by
  apply NamesKept.collapse
  apply @namesKept_of_recased Scan.start (reads_plain false 0) _ _ recased
  intro before rest shape named closes
  exact apart ⟨before, rest, shape, named, closes⟩

/-- Up to the first key clause all candidates are silent in both. -/
theorem clause_recased {pieces others : List Text}
    (recased : List.Forall₂ (Recased .plain) pieces others)
    (apart : ∀ piece ∈ pieces.find? fun piece => (keyMention piece.collapse).clause?.isSome,
      ¬ ReadsBetween piece) :
    ((pieces.map collapse).findSome? fun candidate => (keyMention candidate).clause?) =
      (others.map collapse).findSome? fun candidate => (keyMention candidate).clause? := by
  induction recased with
  | nil => rfl
  | @cons piece other pieces others here _ induction =>
      rw [List.map_cons, List.map_cons, List.findSome?_cons, List.findSome?_cons]
      cases clause : (keyMention piece.collapse).clause? with
      | some key =>
          have named : (keyMention piece.collapse).clause?.isSome = true := by
            rw [clause]
            rfl
          have alone := apart piece (List.find?_cons_of_pos named)
          rw [← clause?_of_namesKept (namesKept_of_apart here alone), clause]
      | none =>
          have both := Option.isSome_eq_isSome.mp
            (isSome_clause?_eq (recast_of_recased here).same)
          rw [both.mp clause]
          apply induction
          intro later found
          apply apart later
          rwa [List.find?_cons_of_neg (by simp [clause])]

end Reading

namespace Table

open Reading

variable {left right : Text} (recased : Recased .plain left right)

include recased

/-- What becomes of two blocks that differ in case. -/
theorem candidates_recased :
    (∃ quote other, candidates left = .error (.unterminatedQuote quote left) ∧
      candidates right = .error (.unterminatedQuote other right)) ∨
    ∃ pieces others, ((pieces? left).getD []).filter (!·.collapse.isEmpty) = pieces ∧
      candidates left = .ok (pieces.map collapse) ∧
      candidates right = .ok (others.map collapse) ∧
      List.Forall₂ (Recased .plain) pieces others := by
  have related := pieces?_recased recased
  cases foundLeft : pieces? left with
  | none =>
      cases foundRight : pieces? right with
      | some =>
          rw [foundLeft, foundRight] at related
          cases related
      | none =>
          rcases candidates_of_pieces?_eq_none foundLeft with ⟨quote, failed⟩
          rcases candidates_of_pieces?_eq_none foundRight with ⟨other, failedRight⟩
          exact .inl ⟨quote, other, failed, failedRight⟩
  | some pieces =>
      cases foundRight : pieces? right with
      | none =>
          rw [foundLeft, foundRight] at related
          cases related
      | some others =>
          rw [foundLeft, foundRight] at related
          cases related with
          | some alike =>
              refine .inr ⟨_, _, rfl, ?_, ?_, filter_recased alike⟩
              · rw [candidates_of_pieces?_eq_some foundLeft, tidied_eq]
                rfl
              · rw [candidates_of_pieces?_eq_some foundRight, tidied_eq]

/-- Letter case outside of quotes shows in nothing but names, and in them only where a name is
read between two quoted texts. -/
theorem letter_case_is_free :
    ((∀ piece ∈ namingPieces left, ¬ ReadsBetween piece) → namesRead left = namesRead right) ∧
      (namesRead left = namesRead right →
        Agree ((parse left).map outline) ((parse right).map outline)) := by
  rcases candidates_recased recased with
    ⟨quote, other, failed, failedRight⟩ | ⟨pieces, others, known, found, foundRight, alike⟩
  · refine ⟨fun _ => by rw [namesRead, namesRead, failed, failedRight], fun _ => ?_⟩
    rw [parse_of_uncut failed, parse_of_uncut failedRight]
    exact .error rfl
  · rw [namesRead, namesRead, namingPieces, known, found, foundRight, parse_of_candidates found,
      parse_of_candidates foundRight]
    cases alike with
    | nil => exact ⟨fun _ => rfl, fun _ => .refl _⟩
    | @cons head headRight body bodyRight here later =>
        simp only [List.map_cons, Prod.mk.injEq]
        constructor
        · intro apart
          rw [List.forall_mem_cons] at apart
          refine ⟨(namesKept_of_apart here apart.1).firstName?_eq, clause_recased later ?_⟩
          intro piece found
          exact apart.2 piece (Option.mem_toList.mpr found)
        · rintro ⟨name, clause⟩
          have recasts : List.Forall₂ Recast (body.map collapse) (bodyRight.map collapse) := by
            rw [List.forall₂_map_left_iff, List.forall₂_map_right_iff]
            exact later.imp fun _ _ => recast_of_recased
          exact ofCandidates_outline name (recast_of_recased here) recasts clause

omit recased in
set_option maxRecDepth 4000 in
/-- Key words in two cases, beside names and literals that stay as they are. -/
theorem key_words_in_two_cases :
    let left : Text := "CREATE TABLE `T` (`Id` BIGINT, `n` INT(5) UNSIGNED, `e` ENUM('A',b), " ++
      "KEY `n` (`n`), CONSTRAINT `pk` PRIMARY KEY (`Id`))"
    let right : Text := "create Table `T` (`Id` bigint, `n` int(5) Unsigned, `e` enum('A',B), " ++
      "key `n` (`n`), constraint `pk` primary Key (`Id`))"
    Recased .plain left right ∧ (∀ piece ∈ namingPieces left, ¬ ReadsBetween piece) ∧
      namesRead left = namesRead right ∧
      Agree ((parse left).map outline) ((parse right).map outline) := by
  intro left right
  have recased : Recased .plain left right := by decide
  have apart : ∀ piece ∈ namingPieces left, ¬ ReadsBetween piece := by decide
  rcases letter_case_is_free recased with ⟨names, agree⟩
  exact ⟨recased, apart, names apart, agree (names apart)⟩

omit recased in
set_option maxRecDepth 4000 in
/-- Between two empty names in backticks a word outside of quotes is read as a name. -/
theorem word_between_backticks_is_read :
    ¬ ∀ left right : Text, Recased .plain left right →
      Agree ((parse left).map outline) ((parse right).map outline) := by
  intro free
  have agree := free "CREATE TABLE `t` (`n` INT, PRIMARY KEY (``id``))"
    "CREATE TABLE `t` (`n` INT, PRIMARY KEY (``ID``))" (by decide)
  exact absurd agree.toOption_eq (by decide)

end Table

end SchemaSeed
