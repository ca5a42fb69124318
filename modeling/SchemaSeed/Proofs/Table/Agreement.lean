import SchemaSeed.Proofs.Sql.Pieces
import SchemaSeed.Proofs.Sql.Splice
import SchemaSeed.Proofs.Table.Schema

/-! Documents that are read alike.  Two readings agree if they give the same tables or fail
with faults of the same name; the text that such a fault shows may differ.  Candidates that
declare the same make blocks that agree, and documents agree that differ in one part of one
block, if that block does. -/

namespace SchemaSeed

open Sql

/-- Both give the same, or both fail under the same label. -/
def Agree (first second : Except Fault α) : Prop :=
  first.mapError Fault.label = second.mapError Fault.label

namespace Agree

theorem refl (outcome : Except Fault α) : Agree outcome outcome := rfl

theorem symm {first second : Except Fault α} (agree : Agree first second) : Agree second first :=
  Eq.symm agree

theorem of_eq {first second : Except Fault α} (same : first = second) : Agree first second :=
  same ▸ refl first

theorem cases {first second : Except Fault α} (agree : Agree first second) :
    (∃ value, first = .ok value ∧ second = .ok value) ∨
      ∃ fault other, first = .error fault ∧ second = .error other ∧ fault.label = other.label := by
  cases first with
  | ok value =>
      cases second with
      | ok other => exact .inl ⟨value, rfl, by cases agree; rfl⟩
      | error => cases agree
  | error fault =>
      cases second with
      | ok => cases agree
      | error other => exact .inr ⟨fault, other, rfl, rfl, Except.error.inj agree⟩

theorem toOption_eq {first second : Except Fault α} (agree : Agree first second) :
    first.toOption = second.toOption := by
  rcases agree.cases with ⟨value, rfl, rfl⟩ | ⟨fault, other, rfl, rfl, -⟩ <;> rfl

theorem error {fault other : Fault} (same : fault.label = other.label) :
    Agree (.error fault : Except Fault α) (.error other) :=
  congrArg Except.error same

theorem bind {first second : Except Fault α} (agree : Agree first second)
    {next nextOther : α → Except Fault β} (later : ∀ value, Agree (next value) (nextOther value)) :
    Agree (first.bind next) (second.bind nextOther) := by
  rcases agree.cases with ⟨value, rfl, rfl⟩ | ⟨fault, other, rfl, rfl, same⟩
  · exact later value
  · exact error same

theorem map {first second : Except Fault α} (agree : Agree first second) (function : α → β) :
    Agree (first.map function) (second.map function) := by
  rcases agree.cases with ⟨value, rfl, rfl⟩ | ⟨fault, other, rfl, rfl, same⟩
  · rfl
  · exact error same

end Agree

/-! ## Candidates -/

namespace Reading

/-- Two candidates declare the same of the key and of a column. -/
structure Interchangeable (first second : Text) : Prop where
  mention : keyMention first = keyMention second
  plain : ∀ primaryKey, isPlainColumn primaryKey first = isPlainColumn primaryKey second
  column : ∀ primaryKey, isPlainColumn primaryKey first = true →
    Agree (Column.classify first) (Column.classify second)

theorem Interchangeable.refl (candidate : Text) : Interchangeable candidate candidate :=
  ⟨rfl, fun _ => rfl, fun _ _ => .refl _⟩

theorem interchangeable_refl (candidates : List Text) :
    List.Forall₂ Interchangeable candidates candidates :=
  List.forall₂_same.mpr fun candidate _ => .refl candidate

variable {first second : List Text}

theorem primaryKeyFrom_interchangeable (same : List.Forall₂ Interchangeable first second)
    (inline : Option Text) : primaryKeyFrom inline first = primaryKeyFrom inline second := by
  induction same generalizing inline with
  | nil => rfl
  | @cons candidate other _ _ here _ induction =>
      simp only [primaryKeyFrom, here.mention]
      cases keyMention other <;> simp only [induction]

/-- The columns, one candidate after the other. -/
theorem columnsOf_cons (primaryKey candidate : Text) (rest : List Text) :
    (columnsOf primaryKey (candidate :: rest)).map (·.1) =
      if isPlainColumn primaryKey candidate then
        (Column.classify candidate).bind fun column =>
          ((columnsOf primaryKey rest).map (·.1)).map (column :: ·)
      else (columnsOf primaryKey rest).map (·.1) := by
  simp only [columnsOf]
  split
  · cases Column.classify candidate with
    | error => rfl
    | ok => cases columnsOf primaryKey rest <;> rfl
  · cases columnsOf primaryKey rest <;> rfl

theorem columnsOf_interchangeable (same : List.Forall₂ Interchangeable first second)
    (primaryKey : Text) :
    Agree ((columnsOf primaryKey first).map (·.1)) ((columnsOf primaryKey second).map (·.1)) := by
  induction same with
  | nil => exact .refl _
  | @cons candidate other _ _ here _ induction =>
      rw [columnsOf_cons, columnsOf_cons, ← here.plain]
      split
      · exact (here.column primaryKey ‹_›).bind fun column => induction.map (column :: ·)
      · exact induction

/-- The table that candidates declare. -/
theorem table_ofCandidates (head : Text) (body : List Text) :
    (ofCandidates (head :: body)).map (·.table) =
      match firstName? head with
      | none => .error (.missingTableName head)
      | some name =>
          match primaryKeyFrom none body with
          | none => .error (.missingPrimaryKey name)
          | some primaryKey =>
              ((columnsOf primaryKey (head :: body)).map (·.1)).map (Table.mk name primaryKey) := by
  simp only [ofCandidates]
  cases firstName? head with
  | none => rfl
  | some name =>
      simp only
      cases primaryKeyFrom none body with
      | none => rfl
      | some primaryKey =>
          simp only
          cases columnsOf primaryKey (head :: body) <;> rfl

theorem ofCandidates_interchangeable {head other : Text}
    (names : firstName? head = firstName? other) (same : Interchangeable head other)
    (later : List.Forall₂ Interchangeable first second) :
    Agree ((ofCandidates (head :: first)).map (·.table))
      ((ofCandidates (other :: second)).map (·.table)) := by
  rw [table_ofCandidates, table_ofCandidates, ← names, ← primaryKeyFrom_interchangeable later]
  cases firstName? head with
  | none => exact .error rfl
  | some name =>
      simp only
      cases primaryKeyFrom none first with
      | none => exact .refl _
      | some primaryKey => exact (columnsOf_interchangeable (.cons same later) primaryKey).map _

/-- A candidate in place of another one that says the same and has the same name. -/
theorem ofCandidates_replaced {candidate other : Text}
    (names : firstName? candidate = firstName? other) (same : Interchangeable candidate other)
    (before after : List Text) :
    Agree ((ofCandidates (before ++ candidate :: after)).map (·.table))
      ((ofCandidates (before ++ other :: after)).map (·.table)) := by
  cases before with
  | nil => exact ofCandidates_interchangeable names same (interchangeable_refl after)
  | cons head before =>
      exact ofCandidates_interchangeable rfl (.refl head)
        (List.rel_append (interchangeable_refl before) (.cons same (interchangeable_refl after)))

end Reading

namespace Table

theorem parse_of_candidates {block : Text} {found : List Text}
    (read : candidates block = .ok found) :
    parse block = (Reading.ofCandidates found).map (·.table) := by
  rw [parse, Reading.ofBlock, read]

theorem parse_of_uncut {block : Text} {fault : Fault} (failed : candidates block = .error fault) :
    parse block = .error fault := by
  rw [parse, Reading.ofBlock, failed]
  rfl

/-- Blocks are read alike that are refused, or whose pieces are the same when tidied. -/
theorem parse_of_tidied {block other : Text}
    (same : (pieces? block).map tidied = (pieces? other).map tidied) :
    Agree (parse block) (parse other) := by
  cases found : pieces? block with
  | none =>
      have foundOther : pieces? other = none := by simpa [found] using same.symm
      rcases candidates_of_pieces?_eq_none found with ⟨_, failed⟩
      rcases candidates_of_pieces?_eq_none foundOther with ⟨_, failedOther⟩
      rw [parse_of_uncut failed, parse_of_uncut failedOther]
      exact .error rfl
  | some pieces =>
      rw [found] at same
      rcases Option.map_eq_some_iff.mp same.symm with ⟨piecesOther, foundOther, tidy⟩
      have read := candidates_of_pieces?_eq_some found
      rw [← tidy, ← candidates_of_pieces?_eq_some foundOther] at read
      exact .of_eq (by rw [parse, parse, Reading.ofBlock, Reading.ofBlock, read])

/-! ## Documents -/

/-- The tables of blocks, one block after the other. -/
def tablesOf : List Text → Except Fault (List Table)
  | [] => .ok []
  | block :: rest => (parse block).bind fun table => (tablesOf rest).map (table :: ·)

theorem parseSchema_eq (document : Text) : parseSchema document = tablesOf (segment document) := by
  rw [parseSchema]
  generalize segment document = blocks
  induction blocks with
  | nil => rfl
  | cons block rest induction =>
      simp only [Reading.upToFault, tablesOf, parse, ← induction]
      cases Reading.ofBlock block with
      | error => rfl
      | ok reading =>
          simp only
          rcases Reading.upToFault rest with ⟨readings, fault⟩
          cases fault <;> rfl

theorem tablesOf_agree {first second : List Text}
    (same : List.Forall₂ (fun block other => Agree (parse block) (parse other)) first second) :
    Agree (tablesOf first) (tablesOf second) := by
  induction same with
  | nil => exact .refl _
  | cons here _ induction => exact here.bind fun table => induction.map (table :: ·)

/-- No marker starts in the part, or before it because of what follows. -/
structure Unmarked (before part after : Text) : Prop where
  marker : Within tableMarker? before (part ++ after)
  noMarker : Silent tableMarker? part after

/-- No marker and no ENGINE clause starts in the part, or before it because of what follows. -/
structure Uncut (before part after : Text) : Prop extends Unmarked before part after where
  engine : Within engineClause? (Cut.last before) (part ++ (Cut.ofText after).lead)
  noEngine : Silent engineClause? part (Cut.ofText after).lead

/-- The declaration of a table goes on where the text ends. -/
structure Declares (before : Text) : Prop where
  started : Cut.last before ≠ []
  noEngine : occurs engineClause? (Cut.last before) = false

/-- The declaration that holds the part in its document, if one does. -/
def around (before part after : Text) : Text :=
  stripComments (Cut.last before ++ (part ++ Block.raw ⟨0, (Cut.ofText after).lead⟩))

variable {before part other after : Text}

/-- A document with one part in place of another is read alike if the slices are that hold the
parts.  Behind the ENGINE clause of a slice nothing more is read of it. -/
theorem parseSchema_splice_slice (unmarked : Unmarked before part after)
    (unmarkedOther : Unmarked before other after)
    (agree : Declares before →
      (tableMarker? (Cut.last before ++ (part ++ (Cut.ofText after).lead))).isSome = true →
        Agree (parse (Block.declaration ⟨0, Cut.last before ++ (part ++ (Cut.ofText after).lead)⟩))
          (parse (Block.declaration
            ⟨0, Cut.last before ++ (other ++ (Cut.ofText after).lead)⟩))) :
    Agree (parseSchema (before ++ (part ++ after))) (parseSchema (before ++ (other ++ after))) := by
  rw [parseSchema_eq, parseSchema_eq, segment_eq, segment_eq]
  apply tablesOf_agree
  have refl (slices : List Text) :
      List.Forall₂ (fun block other => Agree (parse block) (parse other))
        (slices.map fun slice => Block.declaration ⟨0, slice⟩)
        (slices.map fun slice => Block.declaration ⟨0, slice⟩) :=
    List.forall₂_same.mpr fun block _ => .refl _
  rcases Cut.slices_splice unmarked.marker unmarked.noMarker with
    ⟨none, slices⟩ | ⟨earlier, slice, some, slices⟩
  · rcases Cut.slices_splice unmarkedOther.marker unmarkedOther.noMarker with
      ⟨-, slicesOther⟩ | ⟨_, _, someOther, -⟩
    · rw [slices, slicesOther]
      exact refl _
    · rw [none] at someOther
      simp at someOther
  · rcases Cut.slices_splice unmarkedOther.marker unmarkedOther.noMarker with
      ⟨noneOther, -⟩ | ⟨earlierOther, sliceOther, someOther, slicesOther⟩
    · rw [noneOther] at some
      simp at some
    · rw [some] at someOther
      rcases List.append_inj' someOther rfl with ⟨rfl, same⟩
      cases same
      have last := Cut.last_of_slices some
      have marked : (tableMarker? (slice ++ (part ++ (Cut.ofText after).lead))).isSome = true :=
        marked_slice (slices ▸ List.mem_append_right _ List.mem_cons_self)
      have started : slice ≠ [] := by
        rintro rfl
        have marked := @marked_slice before []
          (some ▸ List.mem_append_right _ List.mem_cons_self)
        cases marked
      rw [slices, slicesOther, List.map_append, List.map_append, List.map_cons, List.map_cons]
      refine List.rel_append (refl earlier) (.cons ?_ (refl _))
      rw [last] at agree
      cases engine : occurs engineClause? slice with
      | true =>
          rw [Block.declaration_eq, Block.declaration_eq, raw_of_engine engine,
            raw_of_engine engine]
          exact .refl _
      | false =>
          refine agree ⟨?_, ?_⟩ marked <;> rw [last]
          · exact started
          · exact engine

theorem Uncut.declaration_eq (uncut : Uncut before part after) (declares : Declares before) :
    Block.declaration ⟨0, Cut.last before ++ (part ++ (Cut.ofText after).lead)⟩ =
      around before part after := by
  rw [Block.declaration_eq, raw_splice uncut.engine uncut.noEngine, declares.noEngine]
  rfl

/-- So it is if the declarations are that hold the parts. -/
theorem parseSchema_splice (uncut : Uncut before part after) (uncutOther : Uncut before other after)
    (agree : (∃ character tail, around before part after = character :: tail ∧
        Character.spells 'c' character = true) →
      Agree (parse (around before part after)) (parse (around before other after))) :
    Agree (parseSchema (before ++ (part ++ after))) (parseSchema (before ++ (other ++ after))) := by
  refine parseSchema_splice_slice uncut.toUnmarked uncutOther.toUnmarked fun declares marked => ?_
  have head := @declaration_head ⟨0, _⟩ marked
  rw [uncut.declaration_eq declares] at head ⊢
  rw [uncutOther.declaration_eq declares]
  exact agree head

end Table

end SchemaSeed
