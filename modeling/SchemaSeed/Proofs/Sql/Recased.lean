import SchemaSeed.Proofs.Sql.Case
import SchemaSeed.Proofs.Sql.Collapsed

/-! Texts that differ in letter case outside of quotes.  Their groups, lists and pieces
differ in nothing else, and so do the names in front of their declarations.  A name that
stands elsewhere is the same in both, unless it is read between the backtick that closes one
quoted text and the backtick that opens the next. -/

namespace SchemaSeed

namespace Sql

open Character Text

/-- Two texts that differ, where a scan reads them from a mode on, in nothing but the case of
ASCII letters outside of quotes. -/
inductive Recased : Mode → Text → Text → Prop
  | nil {mode : Mode} : Recased mode [] []
  | same {mode : Mode} {character : Char} {left right : Text}
      (later : Recased (mode.step character) left right) :
      Recased mode (character :: left) (character :: right)
  | letter {first second : Char} {left right : Text} (alike : first.toLower = second.toLower)
      (later : Recased (Mode.plain.step first) left right) :
      Recased .plain (first :: left) (second :: right)

theorem recased_cons_iff {mode : Mode} {first second : Char} {left right : Text} :
    Recased mode (first :: left) (second :: right) ↔
      (first = second ∨ mode = .plain ∧ first.toLower = second.toLower) ∧
        Recased (mode.step first) left right := by
  constructor
  · intro recased
    cases recased with
    | same later => exact ⟨.inl rfl, later⟩
    | letter alike later => exact ⟨.inr ⟨rfl, alike⟩, later⟩
  · rintro ⟨rfl | ⟨rfl, alike⟩, later⟩
    · exact .same later
    · exact .letter alike later

instance decidableRecased : (mode : Mode) → (left right : Text) →
    Decidable (Recased mode left right)
  | _, [], [] => .isTrue .nil
  | _, [], _ :: _ => .isFalse (by rintro ⟨⟩)
  | _, _ :: _, [] => .isFalse (by rintro ⟨⟩)
  | mode, first :: left, _ :: right =>
      have := decidableRecased (mode.step first) left right
      decidable_of_iff _ recased_cons_iff.symm

/-! ## Steps -/

namespace Recased

theorem uncased_eq {mode : Mode} {left right : Text} (recased : Recased mode left right) :
    uncased left = uncased right := by
  induction recased with
  | nil => rfl
  | same later induction => rw [uncased_cons, uncased_cons, induction]
  | letter alike later induction => rw [uncased_cons, uncased_cons, induction, alike]

theorem eq_nil {mode : Mode} {right : Text} (recased : Recased mode [] right) : right = [] := by
  cases recased
  rfl

/-- The first characters of recased texts are read alike, and may stand in front of other
recased texts. -/
theorem step {scan : Scan} {first : Char} {left right : Text}
    (recased : Recased scan.mode (first :: left) right) :
    ∃ second rest, right = second :: rest ∧ scan.step second = scan.step first ∧
      (scan.mode ≠ .plain → second = first) ∧ Recased (scan.step first).mode left rest ∧
      ∀ {before after : Text}, Recased (scan.step first).mode before after →
        Recased scan.mode (first :: before) (second :: after) := by
  rw [mode_step]
  generalize outer : scan.mode = mode at recased
  cases recased with
  | same later => exact ⟨first, _, rfl, rfl, fun _ => rfl, later, .same⟩
  | @letter _ second _ right alike later =>
      have reads : scan.Reads false := by
        intro quote escaped quoted
        rw [outer] at quoted
        cases quoted
      have same : scan.step second = scan.step first := by
        rw [← reads.step_toLower second, ← alike, reads.step_toLower]
      exact ⟨second, right, rfl, same, fun quoted => absurd rfl quoted, later, .letter alike⟩

end Recased

/-! ## Groups and lists -/

section Scans

variable {scan : Scan} {left right : Text} (recased : Recased scan.mode left right)

include recased

theorem opened?_recased (outside : scan.depth = 0) :
    Option.Rel (Recased .plain) (opened? scan left) (opened? scan right) := by
  induction left generalizing scan right with
  | nil =>
      rw [recased.eq_nil]
      exact .none
  | cons first left induction =>
      rcases recased.step with ⟨second, rest, rfl, same, -, later, -⟩
      simp only [opened?, same]
      split
      · exact induction later ‹_›
      · rename_i opens
        rw [(step_opens outside opens).2] at later
        exact .some later

theorem unopened_recased : Recased scan.mode (unopened scan left) (unopened scan right) := by
  induction left generalizing scan right with
  | nil =>
      rw [recased.eq_nil]
      exact .nil
  | cons first left induction =>
      rcases recased.step with ⟨second, rest, rfl, same, -, later, extend⟩
      simp only [unopened, same]
      split
      · exact extend (induction later)
      · exact .nil

theorem inside_recased : Recased scan.mode (inside scan left) (inside scan right) := by
  induction left generalizing scan right with
  | nil =>
      rw [recased.eq_nil]
      exact .nil
  | cons first left induction =>
      rcases recased.step with ⟨second, rest, rfl, same, -, later, extend⟩
      simp only [inside, same]
      split
      · exact .nil
      · exact extend (induction later)

theorem partsFrom_recased :
    ∃ first others firstRight othersRight,
      partsFrom "," scan left = first :: others ∧
      partsFrom "," scan right = firstRight :: othersRight ∧
      Recased scan.mode first firstRight ∧ List.Forall₂ (Recased .plain) others othersRight := by
  induction left generalizing scan right with
  | nil =>
      rw [recased.eq_nil]
      exact ⟨[], [], [], [], rfl, rfl, .nil, .nil⟩
  | cons first left induction =>
      have alike := recased.uncased_eq
      rcases recased.step with ⟨second, rest, rfl, same, -, later, extend⟩
      have separates : Parts.separates "," scan second = Parts.separates "," scan first := by
        rw [← separates_toLower, ← (List.cons_eq_cons.mp alike).1, separates_toLower]
      simp only [partsFrom, separates, same]
      split
      · rename_i separator
        have stays := step_of_separates separator
        have plain : scan.mode = .plain := by
          simp only [Parts.separates, Scan.isTop, Bool.and_eq_true, beq_iff_eq] at separator
          exact separator.1.1.1.1
        rw [stays] at later
        rcases induction later with
          ⟨front, others, frontRight, othersRight, parts, partsRight, here, rests⟩
        rw [plain] at here
        exact ⟨[], _, [], _, rfl, rfl, .nil, parts ▸ partsRight ▸ .cons here rests⟩
      · rcases induction later with
          ⟨front, others, frontRight, othersRight, parts, partsRight, here, rests⟩
        rw [parts, partsRight]
        exact ⟨_, others, _, othersRight, rfl, rfl, extend here, rests⟩

end Scans

/-- The pieces of recased blocks are recased, one by one. -/
theorem pieces?_recased {left right : Text} (recased : Recased .plain left right) :
    Option.Rel (List.Forall₂ (Recased .plain)) (pieces? left) (pieces? right) := by
  have outside : Scan.start.depth = 0 := rfl
  have start : Scan.start.Reads false := reads_plain false 0
  have within := reads_plain false 1
  have same (scan : Scan) (reads : scan.Reads false) {left right : Text}
      (alike : uncased left = uncased right) : scan.run left = scan.run right := by
    rw [← run_uncased reads, alike, run_uncased reads]
  have opened := @opened?_recased Scan.start _ _ recased outside
  have front := @unopened_recased Scan.start _ _ recased
  rw [pieces?, pieces?, content?, content?]
  generalize opened? Scan.start left = opensLeft at opened ⊢
  generalize opened? Scan.start right = opensRight at opened ⊢
  cases opened with
  | none =>
      simp only [same Scan.start start recased.uncased_eq]
      cases (Scan.start.run right).mode.quote? with
      | none => exact .some (.cons recased .nil)
      | some => exact .none
  | @some rest restRight later =>
      have body : Recased .plain (inside ⟨.plain, 1⟩ rest) (inside ⟨.plain, 1⟩ restRight) :=
        @inside_recased ⟨.plain, 1⟩ rest restRight later
      rcases @partsFrom_recased Scan.start _ _ body with
        ⟨first, others, firstRight, othersRight, parts, partsRight, here, rests⟩
      simp only [same ⟨.plain, 1⟩ within body.uncased_eq]
      cases (Scan.run ⟨.plain, 1⟩ (inside ⟨.plain, 1⟩ restRight)).mode.quote? with
      | none =>
          simp only [Option.map_some, parts, partsRight]
          exact .some (.cons front (.cons here rests))
      | some => exact .none

/-! ## Names -/

/-- Text in quotes is the same in both, as long as it goes on without an escape. -/
theorem Recased.quoted {quote : Char} {part rest right : Text}
    (recased : Recased (.quoted quote false) (part ++ rest) right)
    (inside : ∀ character ∈ part, character ≠ quote ∧ character ≠ '\\') :
    ∃ behind, right = part ++ behind ∧ Recased (.quoted quote false) rest behind := by
  induction part generalizing right with
  | nil => exact ⟨right, rfl, recased⟩
  | cons character part induction =>
      rw [List.forall_mem_cons] at inside
      cases recased with
      | same later =>
          rw [Mode.step, if_neg inside.1.2, if_neg inside.1.1] at later
          rcases induction later inside.2 with ⟨behind, rfl, continued⟩
          exact ⟨behind, rfl, continued⟩

theorem isSome_quotedName?_eq {left right : Text} (same : uncased left = uncased right) :
    (quotedName? left).isSome = (quotedName? right).isSome := by
  have alike := congrArg (fun text => (quotedName? text).isSome) same
  simpa only [quotedName?_uncased, Option.isSome_map] using alike

/-- A name that a text starts with is known whatever follows the text. -/
theorem quotedName?_fst_append {text : Text} (named : (quotedName? text).isSome = true)
    (rest : Text) : (quotedName? (text ++ rest)).map (·.1) = (quotedName? text).map (·.1) := by
  rcases Option.isSome_iff_exists.mp named with ⟨pair, found⟩
  rcases quotedName?_eq_some found with ⟨nonempty, known, rfl⟩
  have longer := quotedName?_append nonempty known (pair.2 ++ rest)
  rw [found, List.append_assoc]
  exact congrArg (Option.map (·.1)) longer

/-- Masking does not change the name that stands at a place. -/
theorem quotedName?_fst_mask (character : Char) (rest : Text) :
    (quotedName? (character :: mask rest)).map (·.1) =
      (quotedName? (character :: rest)).map (·.1) := by
  cases found : quotedName? (character :: rest) with
  | none => rw [quotedName?_mask_eq_none found]
  | some pair =>
      rcases quotedName?_eq_some found with ⟨nonempty, known, shape⟩
      rcases List.cons_eq_cons.mp shape with ⟨rfl, whole⟩
      have masked := mask_name (IsName.unescaped ⟨nonempty, known⟩) pair.2
      have front : mask (backtick :: rest) = backtick :: mask rest := rfl
      rw [← shape, front] at masked
      rw [masked, quotedName?_append nonempty known]
      rfl

/-- A backtick that closes nothing leaves a scan inside of quotes. -/
theorem step_backtick {scan : Scan} (reads : scan.Reads false)
    (opens : scan.mode ≠ .quoted backtick false) :
    ∃ quote, scan.mode.step backtick = .quoted quote false ∧ isQuote quote = true := by
  cases mode : scan.mode with
  | plain => exact ⟨backtick, rfl, rfl⟩
  | quoted quote escaped =>
      refine ⟨quote, ?_, (reads quote escaped mode).1⟩
      cases escaped with
      | true => rfl
      | false =>
          have different : backtick ≠ quote := by
            rintro rfl
            exact opens mode
          rw [Mode.step, if_neg (by decide), if_neg different]

theorem isNameCharacter_of_isQuote {quote : Char} (known : isQuote quote = true) :
    isNameCharacter quote = false := by
  simp only [isQuote, Bool.or_eq_true, beq_iff_eq] at known
  rcases known with (rfl | rfl) | rfl <;> decide

/-- A name is the same in both where its first backtick opens quoted text or stands inside
of other quotes. -/
theorem quotedName?_recased {scan : Scan} (reads : scan.Reads false)
    {left right : Text} (recased : Recased scan.mode left right)
    (opens : (quotedName? left).isSome = true → scan.mode ≠ .quoted backtick false) :
    (quotedName? left).map (·.1) = (quotedName? right).map (·.1) := by
  cases found : quotedName? left with
  | none =>
      have both := Option.isSome_eq_isSome.mp (isSome_quotedName?_eq recased.uncased_eq)
      rw [both.mp found]
  | some pair =>
      rw [found] at opens
      rcases quotedName?_eq_some found with ⟨nonempty, known, rfl⟩
      rcases step_backtick reads (opens rfl) with ⟨quote, quoted, isQuote⟩
      have foreign := isNameCharacter_of_isQuote isQuote
      have alike := recased.uncased_eq
      rcases recased.step with ⟨second, rest, rfl, -, -, later, -⟩
      have backtickSecond : second = backtick :=
        (toLower_eq_backtick second).mp (List.cons_eq_cons.mp alike).1.symm
      rw [mode_step, quoted] at later
      rcases later.quoted fun character member => ⟨ne_of_isNameCharacter (known character member)
        foreign, ne_of_isNameCharacter (known character member) (by decide)⟩ with
        ⟨behind, rfl, continued⟩
      cases continued with
      | @same _ _ _ after _ =>
          have named := quotedName?_append nonempty known after
          rw [List.cons_append] at named
          rw [backtickSecond, named]
          rfl

theorem skipBlanks_recased {left right : Text} (recased : Recased .plain left right) :
    Recased .plain left.skipBlanks right.skipBlanks := by
  induction left generalizing right with
  | nil =>
      rw [recased.eq_nil]
      exact .nil
  | cons first left induction =>
      have alike := recased.uncased_eq
      rcases @Recased.step Scan.start _ _ _ recased with ⟨second, rest, rfl, -, -, later, -⟩
      have blank : Character.isBlank second = Character.isBlank first := by
        rw [← isBlank_toLower, ← (List.cons_eq_cons.mp alike).1, isBlank_toLower]
      cases known : Character.isBlank first with
      | false =>
          rw [skipBlanks_of_solid known, skipBlanks_of_solid (blank.trans known)]
          exact recased
      | true =>
          have settled : Scan.start.step first = Scan.start :=
            step_blank known (reads_plain true 0)
          rw [settled] at later
          simp only [Text.skipBlanks, List.dropWhile_cons, known, blank, if_true]
          exact induction later

/-- The name in front of a declaration does not depend on case. -/
theorem splitName_fst_recased {left right : Text} (recased : Recased .plain left right) :
    (Column.splitName left).1 = (Column.splitName right).1 := by
  rw [splitName_fst, splitName_fst]
  exact @quotedName?_recased Scan.start (reads_plain false 0) _ _ (skipBlanks_recased recased)
    (fun _ => nofun)

/-! ## Names behind the front -/

/-- Two texts that differ in case alone, and at no place in a name that is read there. -/
inductive NamesKept : Text → Text → Prop
  | nil : NamesKept [] []
  | cons {first second : Char} {left right : Text} (alike : first.toLower = second.toLower)
      (name : (quotedName? (first :: left)).map (·.1) =
        (quotedName? (second :: right)).map (·.1))
      (later : NamesKept left right) : NamesKept (first :: left) (second :: right)

/-- A name is read between a backtick that closes quoted text and the next one. -/
def ReadsBetween (text : Text) : Prop :=
  ∃ before rest, text = before ++ rest ∧ (quotedName? rest).isSome = true ∧
    (Scan.start.run before).mode = .quoted backtick false

theorem readsBetween_iff {text : Text} :
    ReadsBetween text ↔ (List.range (text.length + 1)).any (fun count =>
      (quotedName? (text.drop count)).isSome &&
        (Scan.start.run (text.take count)).mode == .quoted backtick false) = true := by
  simp only [List.any_eq_true, List.mem_range, Bool.and_eq_true, beq_iff_eq]
  constructor
  · rintro ⟨before, rest, rfl, named, closes⟩
    refine ⟨before.length, ?_, ?_, ?_⟩
    · rw [List.length_append]
      omega
    · rwa [List.drop_left]
    · rwa [List.take_left]
  · rintro ⟨count, -, named, closes⟩
    exact ⟨text.take count, text.drop count, (List.take_append_drop count text).symm, named,
      closes⟩

instance (text : Text) : Decidable (ReadsBetween text) :=
  decidable_of_iff _ readsBetween_iff.symm

theorem namesKept_of_recased {scan : Scan} (reads : scan.Reads false) {left right : Text}
    (recased : Recased scan.mode left right)
    (apart : ∀ before rest, left = before ++ rest → (quotedName? rest).isSome = true →
      (scan.run before).mode ≠ .quoted backtick false) : NamesKept left right := by
  induction left generalizing scan right with
  | nil =>
      rw [recased.eq_nil]
      exact .nil
  | cons first left induction =>
      have alike := recased.uncased_eq
      have name := quotedName?_recased reads recased (apart [] (first :: left) rfl)
      rcases recased.step with ⟨second, rest, rfl, -, -, later, -⟩
      refine .cons (List.cons_eq_cons.mp alike).1 name (induction (reads.step first) later ?_)
      intro before rest shape named
      exact apart (first :: before) rest (congrArg (List.cons first) shape) named

namespace NamesKept

variable {left right : Text}

theorem uncased_eq (kept : NamesKept left right) : uncased left = uncased right := by
  induction kept with
  | nil => rfl
  | cons alike _ _ induction => rw [uncased_cons, uncased_cons, alike, induction]

theorem firstName?_eq (kept : NamesKept left right) : firstName? left = firstName? right := by
  induction kept with
  | nil => rfl
  | cons _ name _ induction =>
      simp only [firstName?, search?, Option.map_or, name] at induction ⊢
      rw [induction]

/-- Cut at one place, both parts keep their names. -/
theorem append {before beforeRight : Text} (length : before.length = beforeRight.length)
    (kept : NamesKept (before ++ left) (beforeRight ++ right)) :
    NamesKept before beforeRight ∧ NamesKept left right := by
  induction before generalizing beforeRight with
  | nil =>
      rw [List.eq_nil_of_length_eq_zero length.symm] at kept ⊢
      exact ⟨.nil, kept⟩
  | cons first before induction =>
      cases beforeRight with
      | nil => cases length
      | cons second beforeRight =>
          cases kept with
          | cons alike name later =>
              rcases induction (Nat.succ.inj length) later with ⟨front, behind⟩
              refine ⟨.cons alike ?_ front, behind⟩
              have same := isSome_quotedName?_eq
                (show uncased (first :: before) = uncased (second :: beforeRight) by
                  rw [uncased_cons, uncased_cons, alike, front.uncased_eq])
              cases named : quotedName? (first :: before) with
              | none =>
                  rw [(Option.isSome_eq_isSome.mp same).mp named]
              | some pair =>
                  rw [named, Option.isSome_some] at same
                  rw [← named, ← quotedName?_fst_append (by rw [named]; rfl) left,
                    ← quotedName?_fst_append same.symm right]
                  exact name

theorem restrict_front {front frontRight : Text} (kept : NamesKept left right)
    (whole : front <+: left) (wholeRight : frontRight <+: right)
    (length : front.length = frontRight.length) : NamesKept front frontRight := by
  rcases whole with ⟨rest, rfl⟩
  rcases wholeRight with ⟨restRight, rfl⟩
  exact (kept.append length).1

theorem restrict_behind {behind behindRight : Text} (kept : NamesKept left right)
    (whole : behind <:+ left) (wholeRight : behindRight <:+ right)
    (length : behind.length = behindRight.length) : NamesKept behind behindRight := by
  rcases whole with ⟨front, rfl⟩
  rcases wholeRight with ⟨frontRight, rfl⟩
  have lengths := congrArg List.length kept.uncased_eq
  simp only [length_uncased, List.length_append] at lengths
  exact (kept.append (by omega)).2

theorem squeeze (kept : NamesKept left right) (gap : Bool) :
    NamesKept (Text.squeeze gap left) (Text.squeeze gap right) := by
  induction kept generalizing gap with
  | nil => exact .nil
  | @cons first second left right alike name _ induction =>
      have blank : Character.isBlank second = Character.isBlank first := by
        rw [← isBlank_toLower, ← alike, isBlank_toLower]
      simp only [Text.squeeze, blank]
      split
      · split
        · exact induction true
        · exact .cons rfl rfl (induction true)
      · refine .cons alike ?_ (induction false)
        rw [← quotedName?_fst_squeezed (squeezed_squeeze false left), name,
          quotedName?_fst_squeezed (squeezed_squeeze false right)]

theorem collapse (kept : NamesKept left right) : NamesKept left.collapse right.collapse := by
  apply (kept.squeeze true).restrict_front
  · rw [collapse_eq]
    exact List.rdropWhile_prefix _ _
  · rw [collapse_eq]
    exact List.rdropWhile_prefix _ _
  · rw [← length_uncased, ← collapse_uncased, kept.uncased_eq, collapse_uncased, length_uncased]

theorem mask (kept : NamesKept left right) : NamesKept (Sql.mask left) (Sql.mask right) := by
  have masked : ∀ skipped, NamesKept (maskFrom skipped left) (maskFrom skipped right) := by
    induction kept with
    | nil => exact fun _ => .nil
    | @cons first second left right alike name later induction =>
        have literal : literalLength? (second :: right) = literalLength? (first :: left) := by
          rw [← literalLength?_uncased, uncased_cons, ← alike, ← later.uncased_eq, ← uncased_cons,
            literalLength?_uncased]
        intro skipped
        cases skipped with
        | succ remaining => exact induction remaining
        | zero =>
            simp only [maskFrom, literal]
            split
            · exact .cons rfl rfl (.cons rfl rfl (induction _))
            · refine .cons alike ?_ (induction 0)
              have names := quotedName?_fst_mask first left
              rwa [name, ← quotedName?_fst_mask second right] at names
  exact masked 0

end NamesKept

end Sql

end SchemaSeed
