import SchemaSeed.Proofs.Sql.Collapsed
import SchemaSeed.Proofs.Sql.Contained
import SchemaSeed.Proofs.Table.Faults
import SchemaSeed.Proofs.Table.LongLength

/-! The order of declarations.  What a declaration gives depends on the others only through
the primary key of the table, and where the key is mentioned once it is the same in any
order.  A table is therefore read from its declarations in any order, with its columns in
that order. -/

namespace SchemaSeed

open Sql

/-! ## Closed text -/

namespace Sql

theorem quote?_run_inside {scan : Scan} (within : scan.depth ≠ 0) {text : Text}
    (closed : (scan.run text).mode.quote? = none) :
    (scan.run (inside scan text)).mode.quote? = none := by
  induction text generalizing scan with
  | nil => exact closed
  | cons character text induction =>
      simp only [inside]
      split
      · rename_i closes
        exact quote?_of_step_closes within closes
      · rename_i still
        exact induction still closed

/-- The group in a text that ends outside of quotes does not end inside of any. -/
theorem isSome_content? {text : Text} (closed : (Scan.start.run text).mode.quote? = none) :
    (content? text).isSome = true := by
  have outside : Scan.start.depth = 0 := rfl
  rw [content?]
  cases opens : opened? Scan.start text with
  | none => simp only [closed, Option.isSome_some]
  | some rest =>
      rw [(run_of_opened outside opens).2] at closed
      simp only [quote?_run_inside Nat.one_ne_zero closed, Option.isSome_some]

/-! ## Candidates -/

theorem tidied_cons_eq (declaration : Text) (rest : List Text) :
    tidied (declaration :: rest) =
      if declaration.collapse = [] then tidied rest
      else declaration.collapse :: tidied rest := by
  split
  · rename_i empty
    simp [tidied, empty]
  · rename_i solid
    exact tidied_cons solid rest

end Sql

namespace Column

theorem error_of_ofCategory {name declaration : Text} {unsigned : Bool} {typeEnd : Nat}
    {category : Category} {fault : Fault}
    (failed : ofCategory name unsigned declaration typeEnd category = .error fault) :
    declaredLength (declaration.drop typeEnd) = .error fault ∨
      membersFrom declaration typeEnd = .error fault := by
  simp only [ofCategory] at failed
  split at failed
  · cases failed
  · split at failed
    · rename_i tooLong
      cases failed
      exact .inl tooLong
    · split at failed
      · split at failed
        · rename_i unread
          cases failed
          exact .inr unread
        · cases failed
        · cases failed
      · cases failed
      · cases failed

/-- In a declaration that closes its quotes, nothing but a length is refused. -/
theorem fault_of_closed {definition name rest : Text}
    (split : splitName definition = (some name, rest))
    (closed : (Scan.start.run definition).mode.quote? = none) {fault : Fault}
    (failed : classify definition = .error fault) :
    ∃ digits, Decimal.HoldsLongNumeral definition digits ∧ fault = .numeralTooLong digits := by
  simp only [classify, split] at failed
  split at failed
  · cases failed
  · rename_i typeEnd found
    rcases Option.bind_eq_some_iff.mp found with ⟨⟨typeName, place⟩, typed, mapped⟩
    rcases Option.map_eq_some_iff.mp mapped with ⟨⟨keyword, _⟩, -, same⟩
    rcases Prod.mk.inj same with ⟨rfl, rfl⟩
    rcases exists_lead split with ⟨lead, whole, closedLead, -⟩
    rcases error_of_ofCategory failed with tooLong | unread
    · rcases fault_of_declaredLength tooLong with ⟨digits, holds, equal⟩
      refine ⟨digits, (holds.mono (List.drop_suffix _ _).isInfix).mono ?_, equal⟩
      exact whole ▸ (List.suffix_append lead rest).isInfix
    · rcases exists_typed typed with ⟨-, front, wholeRest, closedFront, -⟩
      have behind : (Scan.start.run (rest.drop place)).mode.quote? = none := by
        rw [whole, wholeRest, Scan.run_append, Scan.run_append, Scan.start, closedLead.returns,
          closedFront.returns] at closed
        exact closed
      rcases Option.isSome_iff_exists.mp (isSome_content? behind) with ⟨content, content?⟩
      have read := membersFrom_of_members?_eq_some (congrArg (Option.map _) content?)
      rw [unread] at read
      cases read

end Column

namespace Reading

/-! ## The key -/

namespace KeyMention

def clause? : KeyMention → Option Text
  | .clause name => some name
  | _ => none

def inline? : KeyMention → Option Text
  | .inline name => some name
  | _ => none

end KeyMention

/-- The key is that of the first clause, or else of the first column that is marked. -/
theorem primaryKeyFrom_eq (inline : Option Text) (candidates : List Text) :
    primaryKeyFrom inline candidates =
      (candidates.filterMap fun candidate => (keyMention candidate).clause?).head?.or
        (inline.or
          (candidates.filterMap fun candidate => (keyMention candidate).inline?).head?) := by
  induction candidates generalizing inline with
  | nil => cases inline <;> rfl
  | cons candidate rest induction =>
      simp only [primaryKeyFrom]
      cases mention : keyMention candidate with
      | silent => simp [mention, KeyMention.clause?, KeyMention.inline?, induction]
      | inline name => simp [mention, KeyMention.clause?, KeyMention.inline?, induction]
      | clause name => simp [mention, KeyMention.clause?]

/-- The keys that are named by clauses of their own. -/
def clauses (declarations : List Text) : List Text :=
  declarations.filterMap fun declaration => (keyMention declaration.collapse).clause?

/-- The columns that are marked as the key. -/
def marked (declarations : List Text) : List Text :=
  declarations.filterMap fun declaration => (keyMention declaration.collapse).inline?

/-- Exactly one clause names the key, or none does and exactly one column is marked. -/
def SettlesKey (declarations : List Text) (key : Text) : Prop :=
  clauses declarations = [key] ∨ clauses declarations = [] ∧ marked declarations = [key]

theorem SettlesKey.perm {declarations order : List Text} {key : Text}
    (settles : SettlesKey declarations key) (reordered : order.Perm declarations) :
    SettlesKey order key := by
  have sameClauses : (clauses order).Perm (clauses declarations) := reordered.filterMap _
  have sameMarked : (marked order).Perm (marked declarations) := reordered.filterMap _
  rcases settles with clause | ⟨noClause, column⟩
  · rw [clause, List.perm_singleton] at sameClauses
    exact .inl sameClauses
  · rw [noClause, List.perm_nil] at sameClauses
    rw [column, List.perm_singleton] at sameMarked
    exact .inr ⟨sameClauses, sameMarked⟩

theorem filterMap_tidied {function : Text → Option α} (nothing : function [] = none)
    (declarations : List Text) :
    (tidied declarations).filterMap function =
      declarations.filterMap fun declaration => function declaration.collapse := by
  induction declarations with
  | nil => rfl
  | cons declaration rest induction =>
      rw [tidied_cons_eq]
      split
      · rename_i empty
        simp [empty, nothing, induction]
      · simp [List.filterMap_cons, induction]

theorem SettlesKey.primaryKeyFrom {declarations : List Text} {key : Text}
    (settles : SettlesKey declarations key) :
    primaryKeyFrom none (tidied declarations) = some key := by
  rw [primaryKeyFrom_eq, filterMap_tidied rfl, filterMap_tidied rfl]
  change (clauses declarations).head?.or (none.or (marked declarations).head?) = some key
  rcases settles with clause | ⟨noClause, column⟩
  · rw [clause]
    rfl
  · rw [noClause, column]
    rfl

/-! ## The columns -/

/-- The column that a declaration gives beside the key, if it gives one. -/
def columnOf? (key declaration : Text) : Except Fault (Option Column) :=
  if isPlainColumn key declaration.collapse then
    (Column.classify declaration.collapse).map some
  else .ok none

theorem columnsOf_tidied_cons (key declaration : Text) (rest : List Text) :
    (columnsOf key (tidied (declaration :: rest))).map (·.1) =
      (columnOf? key declaration).bind fun column =>
        ((columnsOf key (tidied rest)).map (·.1)).map (column.toList ++ ·) := by
  have unchanged (read : Except Fault (List Column)) : read.map ([] ++ ·) = read := by
    cases read <;> rfl
  rw [tidied_cons_eq, columnOf?]
  split
  · rename_i empty
    have silent : isPlainColumn key [] = false := rfl
    rw [empty, silent, if_neg Bool.false_ne_true]
    exact (unchanged _).symm
  · rw [columnsOf_cons]
    split
    · cases Column.classify declaration.collapse <;> rfl
    · exact (unchanged _).symm

section Columns

variable {key : Text} {declarations : List Text}

theorem columnsOf_tidied {given : Text → Option Column}
    (known : ∀ declaration ∈ declarations, columnOf? key declaration = .ok (given declaration)) :
    (columnsOf key (tidied declarations)).map (·.1) = .ok (declarations.filterMap given) := by
  induction declarations with
  | nil => rfl
  | cons declaration rest induction =>
      rw [List.forall_mem_cons] at known
      rw [columnsOf_tidied_cons, known.1, induction known.2, List.filterMap_cons]
      cases given declaration <;> rfl

/-- Where a declaration gives a fault, the first one that does settles the outcome. -/
theorem columnsOf_tidied_error {declaration : Text} (member : declaration ∈ declarations)
    {fault : Fault} (failed : columnOf? key declaration = .error fault) :
    ∃ first ∈ declarations, ∃ fault, columnOf? key first = .error fault ∧
      (columnsOf key (tidied declarations)).map (·.1) = .error fault := by
  induction declarations with
  | nil => cases member
  | cons first rest induction =>
      rw [columnsOf_tidied_cons]
      cases here : columnOf? key first with
      | error fault => exact ⟨first, List.mem_cons_self, fault, here, rfl⟩
      | ok column =>
          rcases List.mem_cons.mp member with rfl | later
          · rw [failed] at here
            cases here
          · rcases induction later with ⟨other, among, fault, refused, outcome⟩
            refine ⟨other, List.mem_cons_of_mem _ among, fault, refused, ?_⟩
            rw [outcome]
            rfl

end Columns

/-- A declaration that closes its quotes gives no fault but for a length in it. -/
theorem fault_of_columnOf? {key declaration : Text} (contained : Contained declaration)
    {fault : Fault} (failed : columnOf? key declaration = .error fault) :
    ∃ digits, Decimal.HoldsLongNumeral declaration digits ∧ fault = .numeralTooLong digits := by
  rw [columnOf?] at failed
  split at failed
  · rename_i plain
    have named : (Column.splitName declaration.collapse).1 ≠ none := by
      intro unnamed
      rw [isPlainColumn_eq_false_of_unnamed unnamed] at plain
      cases plain
    rcases Option.ne_none_iff_exists'.mp named with ⟨name, named⟩
    have squeezed := (Text.squeezed_collapse declaration).1
    have closed : (Scan.start.run declaration.collapse).mode.quote? = none := by
      have same := quote?_run_squeezed squeezed (reads_plain true 0)
      have ends : Scan.run ⟨.plain, 0⟩ declaration = ⟨.plain, 0⟩ := contained.run
      rw [ends] at same
      exact same.symm
    cases refused : Column.classify declaration.collapse with
    | ok column =>
        rw [refused] at failed
        cases failed
    | error fault =>
        rw [refused] at failed
        cases failed
        rcases Column.fault_of_closed (Prod.ext named rfl) closed refused with
          ⟨digits, holds, equal⟩
        exact ⟨digits, holds.of_collapse, equal⟩
  · cases failed

end Reading

/-! ## Heads -/

namespace Table

/-- What stands in front of the declarations: a marker and the name of the table in
backticks, no parentheses outside of quotes, and no quotes left open. -/
structure Heads (head name : Text) : Prop where
  steady : Steady Scan.start head
  closed : (Scan.start.run head).mode = .plain
  marked : occurs tableMarker? head = true
  named : firstName? head = some name

theorem Heads.candidates {head name : Text} (heads : Heads head name) {declarations : List Text}
    (contained : ∀ declaration ∈ declarations, Contained declaration)
    (nonempty : declarations ≠ []) :
    candidates (blockOf head declarations) = .ok (head.collapse :: tidied declarations) := by
  have solid : head.collapse ≠ [] := by
    intro empty
    have named := heads.named
    rw [firstName?_squeezed (Text.squeezed_collapse head).1, empty] at named
    cases named
  have pieces := pieces?_blockOf contained heads.steady heads.closed nonempty
  rw [candidates_of_pieces?_eq_some pieces, Sql.tidied_cons solid]

/-- The table is read from its head, its key and its columns. -/
theorem parse_blockOf {head name key : Text} (heads : Heads head name) {declarations : List Text}
    (contained : ∀ declaration ∈ declarations, Contained declaration)
    (settles : Reading.SettlesKey declarations key) :
    parse (blockOf head declarations) =
      ((Reading.columnsOf key (tidied declarations)).map (·.1)).map (Table.mk name key) := by
  have nonempty : declarations ≠ [] := by
    rintro rfl
    rcases settles with clause | ⟨-, column⟩
    · cases clause
    · cases column
  have named := heads.named
  rw [firstName?_squeezed (Text.squeezed_collapse head).1] at named
  have markedHead : occurs tableMarker? head.collapse = true := by
    rw [occurs_tableMarker?_collapse, heads.marked]
  rw [parse_of_candidates (heads.candidates contained nonempty), Reading.table_ofCandidates, named]
  simp only [settles.primaryKeyFrom]
  rw [Reading.columnsOf_cons, if_neg (by simp [Reading.isPlainColumn, markedHead])]

/-- Declarations that settle the key give the same table in any order, but for the order of
its columns.  What each of them gives is its own, and only a length that is not converted
can be refused. -/
theorem declarations_are_read_in_any_order {head name key : Text} (heads : Heads head name)
    {declarations : List Text} (contained : ∀ declaration ∈ declarations, Contained declaration)
    (settles : Reading.SettlesKey declarations key) :
    (∀ declaration ∈ declarations, ∀ fault,
      Reading.columnOf? key declaration = .error fault →
        ∃ digits, Decimal.HoldsLongNumeral declaration digits ∧ fault = .numeralTooLong digits) ∧
    ∀ order : List Text, order.Perm declarations →
      (∀ given : Text → Option Column,
        (∀ declaration ∈ declarations,
          Reading.columnOf? key declaration = .ok (given declaration)) →
            parse (blockOf head order) = .ok ⟨name, key, order.filterMap given⟩) ∧
      (∀ declaration ∈ declarations, ∀ fault,
        Reading.columnOf? key declaration = .error fault →
          ∃ digits, parse (blockOf head order) = .error (.numeralTooLong digits)) := by
  refine ⟨fun declaration member fault failed =>
    Reading.fault_of_columnOf? (contained declaration member) failed, fun order reordered => ?_⟩
  have parsed := parse_blockOf heads
    (fun declaration member => contained declaration (reordered.mem_iff.mp member))
    (settles.perm reordered)
  constructor
  · intro given known
    have read := Reading.columnsOf_tidied fun declaration member =>
      known declaration (reordered.mem_iff.mp member)
    rw [parsed, read]
    rfl
  · intro declaration member fault failed
    rcases Reading.columnsOf_tidied_error (reordered.mem_iff.mpr member) failed with
      ⟨first, among, other, refused, outcome⟩
    rcases Reading.fault_of_columnOf? (contained first (reordered.mem_iff.mp among)) refused with
      ⟨digits, -, rfl⟩
    refine ⟨digits, ?_⟩
    rw [parsed, outcome]
    rfl

/-- A clause that names the key is moved to the front, and the columns change places. -/
theorem clause_may_stand_first :
    let head : Text := "CREATE TABLE `t` "
    let declarations : List Text :=
      ["`id` INT", " `e` ENUM('x,y', 'b)')", "`n` INT(5) UNSIGNED", "PRIMARY KEY (`id`)"]
    let order : List Text :=
      ["PRIMARY KEY (`id`)", "`n` INT(5) UNSIGNED", "`id` INT", " `e` ENUM('x,y', 'b)')"]
    let enumerated : Column := ⟨"e", some .enumeration, some 0, false, ["x,y", "b)"]⟩
    let numbered : Column := ⟨"n", some .int32, some 5, true, []⟩
    Heads head "t" ∧ (∀ declaration ∈ declarations, Contained declaration) ∧
      Reading.SettlesKey declarations "id" ∧ order.Perm declarations ∧
      parse (blockOf head declarations) = .ok ⟨"t", "id", [enumerated, numbered]⟩ ∧
      parse (blockOf head order) = .ok ⟨"t", "id", [numbered, enumerated]⟩ := by
  intro head declarations order enumerated numbered
  have heads : Heads head "t" :=
    ⟨steady_of_plain (by decide) _, by decide, by decide, by decide⟩
  have contained : ∀ declaration ∈ declarations, Contained declaration := by decide
  have settles : Reading.SettlesKey declarations "id" := .inl (by decide)
  have reordered : order.Perm declarations := by decide
  let given (declaration : Text) : Option Column :=
    (Reading.columnOf? "id" declaration).toOption.join
  have known : ∀ declaration ∈ declarations,
      Reading.columnOf? "id" declaration = .ok (given declaration) := by
    have read : ∀ declaration ∈ declarations,
        (Reading.columnOf? "id" declaration).isOk = true := by decide
    intro declaration member
    have here := read declaration member
    cases found : Reading.columnOf? "id" declaration with
    | ok column => simp only [given, found, Except.toOption, Option.join_some]
    | error fault =>
        rw [found] at here
        cases here
  have alike := (declarations_are_read_in_any_order heads contained settles).2
  have first : declarations.filterMap given = [enumerated, numbered] := by decide
  have second : order.filterMap given = [numbered, enumerated] := by decide
  refine ⟨heads, contained, settles, reordered, ?_, ?_⟩
  · rw [(alike declarations (.refl _)).1 given known, first]
  · rw [(alike order reordered).1 given known, second]

theorem settlesKey_sizedTable {digits : Text}
    (figures : ∀ digit ∈ digits, digit ∈ Decimal.figures) :
    Reading.SettlesKey [keyColumn, sizedColumn digits] "id" := by
  have marks : Reading.keyMention keyColumn.collapse = .inline "id" := by decide
  have silent : Reading.keyMention (sizedColumn digits).collapse = .silent := by
    rw [collapse_sizedColumn figures]
    exact keyMention_sizedColumn figures
  right
  constructor
  · simp only [Reading.clauses, List.filterMap_cons, List.filterMap_nil, marks, silent,
      Reading.KeyMention.clause?]
  · simp only [Reading.marked, List.filterMap_cons, List.filterMap_nil, marks, silent,
      Reading.KeyMention.inline?]

/-- A length with too many digits is refused, in whatever order the declarations stand. -/
theorem order_of_4301_digits_is_refused :
    ¬ ∀ (head name key : Text) (declarations order : List Text), Heads head name →
      (∀ declaration ∈ declarations, Contained declaration) →
      Reading.SettlesKey declarations key → order.Perm declarations →
        ∃ columns, parse (blockOf head order) = .ok ⟨name, key, columns⟩ := by
  intro read
  have figures : ∀ digit ∈ List.replicate 4301 '1', digit ∈ Decimal.figures := by
    intro digit member
    rw [List.eq_of_mem_replicate member]
    decide
  have long : Decimal.digitLimit < (List.replicate 4301 '1').length := by
    rw [List.length_replicate]
    decide
  have heads : Heads tableHead ['t'] :=
    ⟨steady_of_plain (by decide) _, by decide, by decide, by decide⟩
  have contained : ∀ declaration ∈ [keyColumn, sizedColumn (List.replicate 4301 '1')],
      Contained declaration := by
    simp only [List.forall_mem_cons]
    exact ⟨.of_nested nested_keyColumn, .of_nested (nested_sizedColumn figures), nofun⟩
  rcases read tableHead ['t'] "id" _ _ heads contained (settlesKey_sizedTable figures) (.refl _)
    with ⟨columns, parsed⟩
  rw [blockOf, ← sizedTable_eq_join, parse_sizedTable figures long] at parsed
  cases parsed

end Table

end SchemaSeed
