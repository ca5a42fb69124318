import SchemaSeed.Proofs.Sql.Gap

/-! A blank in a declaration.  It says the same with the blank and without, if no word and no
pair of literals meets there, and no member of an enumeration is there. -/

namespace SchemaSeed

open Sql

namespace Sql

theorem skipBlanks_spaced {first : Char} (solid : Character.isBlank first = false) (rest : Text)
    (gap : Bool) : Text.skipBlanks (spaced gap (first :: rest)) = first :: rest := by
  have space : Character.isBlank ' ' = true := by decide
  cases gap <;> simp [spaced, Text.skipBlanks, solid, space]

theorem Joint.takeWhile_spaced {left : Text} {last first : Char} (joint : Joint left last first)
    {wanted : Char → Bool}
    (words : ∀ character, wanted character = true → Character.isWord character = true)
    (rest : Text) (gap : Bool) :
    (left ++ spaced gap (first :: rest)).takeWhile wanted = left.takeWhile wanted := by
  have unwanted {character : Char} (nonword : Character.isWord character = false) :
      wanted character = false := by
    cases known : wanted character with
    | false => rfl
    | true =>
        rw [words character known] at nonword
        cases nonword
  rw [List.takeWhile_append]
  split
  · rename_i whole
    have all := (List.takeWhile_prefix wanted).eq_of_length whole
    have final : wanted last = true := by
      have member := List.mem_of_getLast? joint.ends
      rw [← all] at member
      exact List.mem_takeWhile_imp member
    have nonword : Character.isWord first = false :=
      joint.apart.words.resolve_left (by rw [words last final]; decide)
    have nothing : (spaced gap (first :: rest)).takeWhile wanted = [] := by
      cases gap with
      | false => simp [spaced, unwanted nonword]
      | true => simp [spaced, unwanted (show Character.isWord ' ' = false by decide)]
    rw [nothing, List.append_nil, all]
  · rfl

end Sql

namespace Column

variable {left : Text} {last first : Char} (joint : Joint left last first)

include joint

omit joint in
theorem splitName_skipBlanks (text : Text) : splitName text.skipBlanks = splitName text := by
  simp only [splitName, Text.strip, Text.trim, Text.skipBlanks, List.dropWhile_idempotent]

/-- The name is read before the blank; what is behind it starts with the blank at most. -/
theorem splitName_spaced (rest : Text) :
    (∀ gap, (splitName (left ++ spaced gap (first :: rest))).1 = none) ∨
      (∃ name, ∀ gap, splitName (left ++ spaced gap (first :: rest)) = (some name, first :: rest)) ∨
      ∃ name behind, splitName left = (some name, behind) ∧ Joint behind last first ∧
        ∀ gap, splitName (left ++ spaced gap (first :: rest)) =
          (some name, behind ++ spaced gap (first :: rest)) := by
  have front := joint.skipBlanks
  have skips (gap : Bool) : splitName (left ++ spaced gap (first :: rest)) =
      splitName (left.skipBlanks ++ spaced gap (first :: rest)) := by
    rw [← splitName_skipBlanks, joint.skipBlanks_append]
  simp only [skips, ← splitName_skipBlanks left]
  have starts := List.head?_dropWhile_not Character.isBlank left
  rw [← Text.skipBlanks] at starts
  generalize left.skipBlanks = text at front starts
  cases text with
  | nil => cases front.ends
  | cons character more =>
      by_cases opens : character = backtick
      · subst opens
        rcases front.lexical.behind_name with ⟨name, behind, rfl, inside, -, -⟩
        have whole (right : Text) : backtick :: (name ++ backtick :: behind) ++ right =
            backtick :: name ++ backtick :: (behind ++ right) := by simp
        by_cases proper : IsName name
        · have named (right : Text) := splitName_append proper.1 proper.2 (behind ++ right)
          simp only [whole, named]
          by_cases nothing : behind = []
          · subst nothing
            exact .inr (.inl ⟨name, fun gap => by
              rw [List.nil_append, skipBlanks_spaced joint.apart.solidFirst]⟩)
          · have jointBehind := @Joint.behind _ _ _ front (backtick :: name ++ [backtick]) behind
              (by simp) nothing fun _ lexical => lexical.behind_of_name inside
            refine .inr (.inr ⟨name, Text.skipBlanks behind,
              splitName_append proper.1 proper.2 behind, jointBehind.skipBlanks, fun gap => ?_⟩)
            rw [jointBehind.skipBlanks_append]
        · refine .inl fun gap => ?_
          have unnamed := quotedName?_of_improper inside proper
            (behind ++ spaced gap (first :: rest))
          rw [List.cons_append] at unnamed
          rw [whole, List.cons_append, splitName, Text.skipBlanks_of_solid (by decide), unnamed]
      · refine .inl fun gap => ?_
        have unnamed : quotedName? (character :: (more ++ spaced gap (first :: rest))) = none := by
          simp only [quotedName?, if_neg opens]
        rw [List.cons_append, splitName, Text.skipBlanks_of_solid (by simpa using starts), unnamed]

theorem typeName?_spaced (rest : Text) (gap : Bool) :
    typeName? (left ++ spaced gap (first :: rest)) = typeName? left := by
  have letters : ∀ character, isTypeCharacter character = true →
      Character.isWord character = true := by
    intro character known
    rw [isTypeCharacter, Bool.or_eq_true, beq_iff_eq] at known
    rcases known with letter | rfl
    · exact Character.isWord_of_isAlphanum (by rw [Char.isAlphanum, letter, Bool.true_or])
    · decide
  have shorter : left.skipBlanks.length ≤ left.length :=
    (List.dropWhile_sublist Character.isBlank).length_le
  have lengths (right : Text) :
      (left ++ right).length - (left.skipBlanks ++ right).length =
        left.length - left.skipBlanks.length := by
    rw [List.length_append, List.length_append]
    omega
  simp only [typeName?, joint.skipBlanks_append, joint.skipBlanks.takeWhile_spaced letters,
    lengths]

theorem lengthDigits_spaced (rest : Text) (gap : Bool) :
    lengthDigits (left ++ spaced gap (first :: rest)) =
      lengthDigits (left ++ first :: rest) := by
  have front := joint.skipBlanks
  have skips (gap : Bool) := joint.skipBlanks_append (spaced gap (first :: rest))
  have whole := skips false
  rw [spaced] at whole
  simp only [lengthDigits, skips gap, whole]
  cases shape : Text.skipBlanks left with
  | nil =>
      rw [shape] at front
      cases front.ends
  | cons character more =>
      rw [shape] at front
      by_cases opens : character = '('
      · subst opens
        have digits (gap : Bool) :
            (Text.skipBlanks (more ++ spaced gap (first :: rest))).takeWhile
                Character.isDecimalDigit =
              (Text.skipBlanks (more ++ spaced false (first :: rest))).takeWhile
                Character.isDecimalDigit := by
          by_cases nothing : more = []
          · rw [nothing, List.nil_append, List.nil_append,
              skipBlanks_spaced joint.apart.solidFirst, skipBlanks_spaced joint.apart.solidFirst]
          · have behind := @Joint.behind _ _ _ front ['('] more rfl nothing
              fun _ lexical => lexical.tail (by decide) (by simp)
            have figures := fun character => @Character.isWord_of_isDecimalDigit character
            rw [behind.skipBlanks_append, behind.skipBlanks_append,
              behind.skipBlanks.takeWhile_spaced figures,
              behind.skipBlanks.takeWhile_spaced figures]
        exact digits gap
      · simp [opens]

/-! ## Members -/

omit joint in
theorem strip_eq_nil_iff (text : Text) :
    text.strip = [] ↔ ∀ character ∈ text, Character.isBlank character = true := by
  constructor
  · intro stripped
    rw [Text.strip, Text.trim, List.reverse_eq_nil_iff, List.dropWhile_eq_nil_iff] at stripped
    cases shape : text.dropWhile Character.isBlank with
    | nil => exact List.dropWhile_eq_nil_iff.mp shape
    | cons character rest =>
        have solid := List.head?_dropWhile_not Character.isBlank text
        have blank := stripped character (by simp [shape])
        rw [shape] at solid
        simp [blank] at solid
  · intro blank
    rw [Text.strip, Text.trim, List.dropWhile_eq_nil_iff.mpr blank]
    rfl

omit joint in
theorem member_blank_cons (written : Text) : member (' ' :: written) = member written := by
  have space : Character.isBlank ' ' = true := by decide
  simp only [member, Text.strip, Text.trim, List.dropWhile_cons_of_pos space]

omit joint in
theorem member_append_blank (written : Text) : member (written ++ [' ']) = member written := by
  have space : Character.isBlank ' ' = true := by decide
  have back : Text.strip (written ++ [' ']) = Text.strip written := by
    simp only [Text.strip, Text.trim, List.dropWhile_append]
    cases shape : written.dropWhile Character.isBlank with
    | nil => simp [space]
    | cons character rest => simp [space]
  rw [member, member, back]

end Column

namespace Sql

theorem Scan.Reads.run {scan : Scan} (reads : scan.Reads false) (text : Text) :
    (scan.run text).Reads false := by
  induction text generalizing scan with
  | nil => exact reads
  | cons character text induction => exact induction (reads.step character)

/-- A scan that stands outside of quotes behind a character that is no quote stood there
before. -/
theorem plain_of_step {scan : Scan} (reads : scan.Reads false) {character : Char}
    (unquoted : isQuote character = false) (plain : (scan.step character).mode = .plain) :
    ∃ depth, scan = ⟨.plain, depth⟩ := by
  rcases scan with ⟨mode, depth⟩
  cases mode with
  | plain => exact ⟨depth, rfl⟩
  | quoted quote escaped =>
      have quoted := (reads quote escaped rfl).1
      cases escaped with
      | true => cases plain
      | false =>
          simp only [Scan.step, Mode.step] at plain
          split at plain
          · cases plain
          · split at plain
            · subst character
              rw [quoted] at unquoted
              cases unquoted
            · cases plain

/-- At an end of a part, the blank is all of that part that stands on its side. -/
theorem exists_parts_spaced {inner right : Text} (run : Scan.start.run inner = Scan.start)
    (edge : (inner = [] ∨ inner.getLast? = some ',') ∨ right = [] ∨ right.head? = some ',') :
    ∃ earlier before behind others, (before = [] ∨ behind = []) ∧
      ∀ gap, partsFrom "," Scan.start (inner ++ spaced gap right) =
        earlier ++ (before ++ spaced gap behind) :: others := by
  rcases exists_partsFrom Scan.start right with ⟨first, others, parts, -⟩
  have later (gap : Bool) : partsFrom "," Scan.start (spaced gap right) =
      spaced gap first :: others := by
    cases gap with
    | false => exact parts
    | true =>
        have step : Scan.start.step ' ' = Scan.start := by decide
        rw [spaced, partsFrom, not_separates_of_blank (by decide), step, parts]
        rfl
  rcases edge with (rfl | ends) | last
  · exact ⟨[], [], first, others, .inl rfl, later⟩
  · rcases List.getLast?_eq_some_iff.mp ends with ⟨front, rfl⟩
    rw [Scan.run_append, Scan.run_cons, Scan.run_nil] at run
    have before : Scan.start.run front = Scan.start := by
      rcases @plain_of_step (Scan.start.run front) ((reads_plain false 0).run front) ','
        (by decide) (by rw [run]; rfl) with ⟨depth, stands⟩
      rw [stands] at run ⊢
      exact run
    rcases exists_parts Scan.start front with ⟨earlier, held, parts, -⟩
    refine ⟨earlier ++ [held], [], first, others, .inl rfl, fun gap => ?_⟩
    rw [List.append_assoc, List.singleton_append, parts, before, partsFrom,
      if_pos (by decide), later]
    simp [continued]
  · have nothing : first = [] := by
      rcases last with rfl | starts
      · cases parts
        rfl
      · rcases List.head?_eq_some_iff.mp starts with ⟨rest, rfl⟩
        rw [partsFrom, if_pos (by decide)] at parts
        exact (List.cons_eq_cons.mp parts).1.symm
    rcases exists_parts Scan.start inner with ⟨earlier, held, parts, -⟩
    refine ⟨earlier, held, first, others, .inr nothing, fun gap => ?_⟩
    rw [parts, run, later]
    rfl

theorem inside_spaced (gap : Bool) (text : Text) :
    inside ⟨.plain, 1⟩ (spaced gap text) = spaced gap (inside ⟨.plain, 1⟩ text) := by
  cases gap <;> rfl

theorem run_spaced (depth : Nat) (gap : Bool) (text : Text) :
    Scan.run ⟨.plain, depth⟩ (spaced gap text) = Scan.run ⟨.plain, depth⟩ text := by
  cases gap <;> rfl

/-- In a group that is not left, what ends within it ends outside of groups for itself. -/
theorem run_of_held {inner : Text} (held : inside ⟨.plain, 1⟩ inner = inner)
    (runs : Scan.run ⟨.plain, 1⟩ inner = ⟨.plain, 1⟩) : Scan.start.run inner = Scan.start := by
  have shifted := @run_of_inside .plain 0 inner held
  rw [show (⟨.plain, 0 + 1⟩ : Scan) = ⟨.plain, 1⟩ from rfl, runs] at shifted
  rcases run : Scan.run ⟨.plain, 0⟩ inner with ⟨mode, depth⟩
  rw [run] at shifted
  cases shifted
  exact run

/-- A blank in the first parentheses of a text is a blank in what they hold. -/
theorem content?_spaced {left inner : Text} (opens : opened? Scan.start left = some inner)
    (held : inside ⟨.plain, 1⟩ inner = inner)
    (runs : Scan.run ⟨.plain, 1⟩ inner = ⟨.plain, 1⟩) (right : Text) (gap : Bool) :
    content? (left ++ spaced gap right) =
      if (Scan.run ⟨.plain, 1⟩ (inside ⟨.plain, 1⟩ right)).mode.quote? = none then
        some (some (inner ++ spaced gap (inside ⟨.plain, 1⟩ right)))
      else none := by
  have start : Scan.start.depth = 0 := rfl
  cases still : (Scan.run ⟨.plain, 1⟩ (inside ⟨.plain, 1⟩ right)).mode.quote? <;>
    simp [content?, opened?_append start, opens, inside_append, held, runs, inside_spaced,
      run_spaced, still]

end Sql

namespace Column

theorem member_spaced {before behind : Text} (edge : before = [] ∨ behind = []) (gap : Bool) :
    member (before ++ spaced gap behind) = member (before ++ spaced false behind) := by
  cases gap with
  | false => rfl
  | true =>
      rcases edge with rfl | rfl
      · exact member_blank_cons behind
      · rw [spaced, spaced, List.append_nil, member_append_blank]

theorem isEmpty_strip_spaced (before behind : Text) (gap : Bool) :
    (Text.strip (before ++ spaced gap behind)).isEmpty =
      (Text.strip (before ++ spaced false behind)).isEmpty := by
  have space : Character.isBlank ' ' = true := by decide
  rw [Bool.eq_iff_iff, List.isEmpty_iff, List.isEmpty_iff, strip_eq_nil_iff, strip_eq_nil_iff]
  cases gap with
  | false => rfl
  | true => simp only [spaced, List.forall_mem_append, List.forall_mem_cons, space, true_and]

/-- The text that an opening parenthesis or a comma ends is empty in its group, or ends with
the comma. -/
theorem edge_of_opened {left lead inner : Text} {last : Char} (whole : left = lead ++ '(' :: inner)
    (ends : left.getLast? = some last) (returns : Scan.start.run inner = Scan.start)
    (edge : last = '(' ∨ last = ',') : inner = [] ∨ inner.getLast? = some ',' := by
  by_cases nothing : inner = []
  · exact .inl nothing
  · right
    rw [whole, List.getLast?_append_of_ne_nil _ (List.cons_ne_nil _ _), List.getLast?_cons,
      List.getLast?_eq_some_getLast nothing, Option.getD_some] at ends
    rcases edge with rfl | rfl
    · rcases List.getLast?_eq_some_iff.mp ((List.getLast?_eq_some_getLast nothing).trans ends) with
        ⟨front, rfl⟩
      rw [Scan.run_append, Scan.run_cons, Scan.run_nil] at returns
      rcases @plain_of_step (Scan.start.run front) ((reads_plain false 0).run front) '('
        (by decide) (by rw [returns]; rfl) with ⟨depth, stands⟩
      rw [stands] at returns
      cases returns
    · exact (List.getLast?_eq_some_getLast nothing).trans ends

/-- A member of a list ends or starts between the two characters. -/
def AtEdge (last first : Char) : Prop :=
  (last = '(' ∨ last = ',') ∨ first = ')' ∨ first = ','

/-- At the edge of a member, a blank belongs to none. -/
theorem members?_spaced {left rest : Text} {last first : Char} (ends : left.getLast? = some last)
    (within : Scan.start.run left = ⟨.plain, 1⟩) (edge : AtEdge last first) (gap : Bool) :
    members? (left ++ spaced gap (first :: rest)) = members? (left ++ first :: rest) := by
  change _ = members? (left ++ spaced false (first :: rest))
  have start : Scan.start.depth = 0 := rfl
  cases opens : opened? Scan.start left with
  | none =>
      have outside := depth_of_closed start opens
      rw [within] at outside
      exact absurd outside (by decide)
  | some inner =>
      have runs := (run_of_opened start opens).2
      rw [within] at runs
      by_cases held : inside ⟨.plain, 1⟩ inner = inner
      · have returns := run_of_held held runs.symm
        have content (gap : Bool) := content?_spaced opens held runs.symm (first :: rest) gap
        have edgeInner : (inner = [] ∨ inner.getLast? = some ',') ∨
            inside ⟨.plain, 1⟩ (first :: rest) = [] ∨
              (inside ⟨.plain, 1⟩ (first :: rest)).head? = some ',' := by
          rcases edge with atFront | rfl | rfl
          · exact .inl (edge_of_opened (unopened_append start opens) ends returns atFront)
          · exact .inr (.inl rfl)
          · exact .inr (.inr rfl)
        rcases exists_parts_spaced returns edgeInner with
          ⟨earlier, before, behind, others, nothing, parts⟩
        rw [members?, members?, content, content]
        split
        · have empty := isEmpty_strip_spaced inner (inside ⟨.plain, 1⟩ (first :: rest)) gap
          simp only [Option.map_some, parts, List.map_append, List.map_cons,
            member_spaced nothing gap, empty]
        · rfl
      · simp only [members?, content?, opened?_append start, opens, Option.map_some,
          Option.some_or, inside_append, if_neg held]

/-- Whether a declaration is that of an enumeration. -/
def isEnumeration (declaration : Text) : Bool :=
  (typeName? (splitName declaration).2).any fun found =>
    (matchKeyword found.1).any (·.2 == .enumeration)

/-- No member of an enumeration is on both sides of the end of the text. -/
inductive Unshared (left : Text) (last first : Char) : Prop
  | outside (outside : Scan.start.run left = Scan.start)
  | edge (within : Scan.start.run left = ⟨.plain, 1⟩) (edge : AtEdge last first)
  | other (other : isEnumeration left = false)

section Joint

variable {left : Text} {last first : Char} (joint : Joint left last first)

include joint

/-- The blank does not matter to what follows the name of the type. -/
theorem ofCategory_spaced {typeName : Text} {typeEnd : Nat}
    (typed : typeName? left = some (typeName, typeEnd)) (name : Text) (unsigned : Bool)
    (category : Category)
    (members : category = .enumeration → Scan.start.run left = Scan.start ∨
      Scan.start.run left = ⟨.plain, 1⟩ ∧ AtEdge last first) (rest : Text) (gap : Bool) :
    Agree (ofCategory name unsigned (left ++ spaced gap (first :: rest)) typeEnd category)
      (ofCategory name unsigned (left ++ first :: rest) typeEnd category) := by
  change Agree _ (ofCategory name unsigned (left ++ spaced false (first :: rest)) typeEnd category)
  rcases exists_typed typed with ⟨bound, lead, whole, closed, lexical⟩
  have runs : Scan.start.run (left.drop typeEnd) = Scan.start.run left := by
    have returns : Scan.start.run lead = Scan.start := closed.returns 0
    conv_rhs => rw [whole, Scan.run_append, returns]
  have dropped (gap : Bool) : (left ++ spaced gap (first :: rest)).drop typeEnd =
      left.drop typeEnd ++ spaced gap (first :: rest) := List.drop_append_of_le_length bound
  refine ofCategory_agree ?_ name unsigned category fun enumeration => ?_
  · rw [dropped, dropped]
    by_cases nothing : left.drop typeEnd = []
    · rw [nothing, List.nil_append, List.nil_append, lengthDigits, lengthDigits,
        skipBlanks_spaced joint.apart.solidFirst, skipBlanks_spaced joint.apart.solidFirst]
    · exact lengthDigits_spaced (joint.behind whole nothing lexical) rest gap
  · rw [dropped, dropped]
    have space : Closed [' '] := closed_of_blank (by simp; decide)
    rcases members enumeration with outside | ⟨within, edge⟩
    · cases gap with
      | false => rfl
      | true =>
          have same := content?_between (runs.trans outside) (first :: rest) space
          rw [members?, members?]
          exact congrArg _ same
    · have nonempty : left.drop typeEnd ≠ [] := by
        intro nothing
        rw [nothing, within] at runs
        cases runs
      exact members?_spaced (joint.behind whole nonempty lexical).ends
        (runs.trans within) edge gap

end Joint

end Column

end SchemaSeed
