import SchemaSeed.Proofs.Column.Front
import SchemaSeed.Proofs.Sql.Stripped

/-! The literal that is the value of a DEFAULT.  A declaration says the same whatever stands in
it, as long as the searches for UNSIGNED, for markers and for ENGINE clauses do not tell the
contents apart: they alone look into literals, all other searches are made in masked text. -/

namespace SchemaSeed

open Sql

/-! ## The declaration of a column -/

/-- A literal may start behind the text, within no parentheses. -/
structure Before (quote : Char) (front : Text) : Prop where
  lexical : Lexical false Unescaped front
  outside : Scan.start.run front = Scan.start
  single : front.getLast? ≠ some quote

namespace Before

variable {quote : Char} {front : Text} (before : Before quote front)

include before

theorem behind {lead rest : Text} (whole : front = lead ++ rest) (closed : Closed lead)
    (lexical : Lexical false Unescaped front → Lexical false Unescaped rest) :
    Before quote rest where
  lexical := lexical before.lexical
  outside := by
    have outside := before.outside
    have returns : Scan.start.run lead = Scan.start := closed.returns 0
    rwa [whole, Scan.run_append, returns] at outside
  single := by
    intro last
    apply before.single
    rw [whole, List.getLast?_append, last]
    rfl

theorem splitName {name rest : Text} (split : Column.splitName front = (some name, rest)) :
    Before quote rest := by
  rcases Column.exists_lead split with ⟨lead, whole, closed, lexical⟩
  exact before.behind whole closed (lexical _)

theorem typed {typeName : Text} {typeEnd : Nat}
    (typed : Column.typeName? front = some (typeName, typeEnd)) :
    typeEnd ≤ front.length ∧ Before quote (front.drop typeEnd) := by
  rcases Column.exists_typed typed with ⟨bound, lead, whole, closed, lexical⟩
  exact ⟨bound, before.behind whole closed (lexical _)⟩

theorem squeeze (opens : quote = '\'' ∨ quote = '"') : Before quote (Text.squeeze true front) where
  lexical := (before.lexical.squeeze (fun _ => id) (fun _ => Unescaped.squeeze) true).1
  outside := by
    have run := (before.lexical.squeeze (fun _ => id) (fun _ => Unescaped.squeeze) true).2 0
    exact run.trans before.outside
  single last :=
    before.single (Text.getLast?_of_squeeze last (isBlank_of_isQuote (isQuote_of_opens opens)))

end Before

/-- Two contents of a literal that the searches in unmasked text do not tell apart. -/
structure Indistinct (quote : Char) (content other : Text) : Prop where
  complete : Complete quote content
  completeOther : Complete quote other
  unsigned : mentionsUnsigned content = mentionsUnsigned other
  marker : occurs tableMarker? content = occurs tableMarker? other

section Declaration

variable {quote : Char} (opens : quote = '\'' ∨ quote = '"') {front content other : Text}
  (before : Before quote front) (indistinct : Indistinct quote content other) (rest : Text)

include opens indistinct

theorem Indistinct.squeeze :
    Indistinct quote (Text.squeeze false content) (Text.squeeze false other) where
  complete := indistinct.complete.squeeze (isQuote_of_opens opens) false
  completeOther := indistinct.completeOther.squeeze (isQuote_of_opens opens) false
  unsigned := by
    have solid : SolidLetters "unsigned" := solidLetters_of_codes (by decide)
    have same := occurs_squeeze (word?_squeeze solid) (fun character rest blank =>
      by simp [word?, solid 'u' (by decide) character blank]) false
    rw [mentionsUnsigned, mentionsUnsigned, same, same]
    exact indistinct.unsigned
  marker := by
    have solidFirst : SolidLetters "create" := solidLetters_of_codes (by decide)
    have solidSecond : SolidLetters "table" := solidLetters_of_codes (by decide)
    have same := @occurs_squeeze tableMarker? (phrase?_squeeze solidFirst solidSecond)
      (fun character rest blank => by
        simp [tableMarker?, phrase?, word?, solidFirst 'c' (by decide) character blank]) false
    rw [same, same]
    exact indistinct.marker

omit opens indistinct in
theorem occurs_literal {matcher : Text → Option Text} (bars : Bars matcher quote)
    (nothing : matcher [] = none) (same : occurs matcher content = occurs matcher other)
    (front : Text) :
    occurs matcher (front ++ quote :: (content ++ quote :: rest)) =
      occurs matcher (front ++ quote :: (other ++ quote :: rest)) := by
  simp only [occurs_bar_eq bars nothing, same]

include before

theorem mask_literal_eq :
    mask (front ++ quote :: (content ++ quote :: rest)) =
      mask (front ++ quote :: (other ++ quote :: rest)) := by
  have apart (content : Text) : ∀ second, (second = '\'' ∨ second = '"') →
      front.getLast? = some second → (quote :: (content ++ quote :: rest)).head? ≠ some second := by
    rintro second - last ⟨⟩
    exact before.single last
  rw [before.lexical.mask_append (apart content), before.lexical.mask_append (apart other)]
  exact congrArg _ (indistinct.complete.mask_eq indistinct.completeOther opens rest)

/-- What follows the name of the type is read alike. -/
theorem ofCategory_literal {typeName : Text} {typeEnd : Nat}
    (typed : Column.typeName? front = some (typeName, typeEnd)) (name : Text) (unsigned : Bool)
    (category : Category) :
    Agree
      (Column.ofCategory name unsigned (front ++ quote :: (content ++ quote :: rest)) typeEnd
        category)
      (Column.ofCategory name unsigned (front ++ quote :: (other ++ quote :: rest)) typeEnd
        category) := by
  rcases before.typed typed with ⟨bound, behind⟩
  have fences := fences_of_opens opens
  have known := isQuote_of_opens opens
  have members {content : Text} (complete : Complete quote content) :
      Column.members? (front.drop typeEnd ++ quote :: (content ++ quote :: rest)) =
        Column.members? (front.drop typeEnd ++ rest) := by
    have same := content?_between behind.outside rest (complete.closed known)
    rw [← quoted_append] at same
    rw [Column.members?, Column.members?, ← same]
    rfl
  refine Column.ofCategory_agree ?_ name unsigned category fun _ => ?_
  · rw [List.drop_append_of_le_length bound, List.drop_append_of_le_length bound,
      Column.lengthDigits_bar fences, Column.lengthDigits_bar fences]
  · rw [List.drop_append_of_le_length bound, List.drop_append_of_le_length bound,
      members indistinct.complete, members indistinct.completeOther]

omit indistinct in
/-- A declaration has its name in front of the literal, or none. -/
theorem splitName_literal :
    (∀ rest, (Column.splitName (front ++ quote :: rest)).1 = none) ∨
      ∃ name behind, Before quote behind ∧
        ∀ rest, Column.splitName (front ++ quote :: rest) =
          (some name, behind ++ quote :: rest) := by
  have split := Column.splitName_bar (fences_of_opens opens) front
  cases found : Column.splitName front with
  | mk name behind =>
      cases name with
      | none =>
          refine .inl fun rest => ?_
          rcases split rest with ⟨-, unnamed⟩ | ⟨_, _, named, -⟩
          · exact unnamed
          · rw [found] at named
            cases named
      | some name =>
          refine .inr ⟨name, behind, before.splitName found, fun rest => ?_⟩
          rcases split rest with ⟨unnamed, -⟩ | ⟨_, _, named, whole⟩
          · rw [found] at unnamed
            cases unnamed
          · rw [found] at named
            cases named
            exact whole

/-- Declarations that differ in the content of a literal say the same. -/
theorem interchangeable_literal :
    Reading.Interchangeable (front ++ quote :: (content ++ quote :: rest))
      (front ++ quote :: (other ++ quote :: rest)) := by
  have fences := fences_of_opens opens
  have barsMarker : Bars tableMarker? quote :=
    bars_phrase (by rcases opens with rfl | rfl <;> decide) fences.solid
  have barsUnsigned : Bars (word? "unsigned") quote :=
    bars_word (by rcases opens with rfl | rfl <;> decide)
  have mention : Reading.keyMention (front ++ quote :: (content ++ quote :: rest)) =
      Reading.keyMention (front ++ quote :: (other ++ quote :: rest)) := by
    simp only [Reading.keyMention, mask_literal_eq opens before indistinct rest]
  rcases splitName_literal opens before with unnamed | ⟨name, behind, beforeRest, named⟩
  · have plain (primaryKey rest : Text) :=
      Reading.isPlainColumn_eq_false_of_unnamed (unnamed rest) primaryKey
    refine ⟨mention, fun primaryKey => ?_, fun primaryKey isPlain => ?_⟩
    · rw [plain, plain]
    · rw [plain] at isPlain
      cases isPlain
  · refine ⟨mention, fun primaryKey => ?_, fun _ _ => ?_⟩
    · simp only [Reading.isPlainColumn, named,
        occurs_literal rest barsMarker rfl indistinct.marker front,
        mask_literal_eq opens beforeRest indistinct rest]
    · have unsigned := occurs_literal rest barsUnsigned rfl indistinct.unsigned behind
      have typed (rest : Text) := Column.typeName?_bar fences behind rest
      simp only [Column.classify, named, mentionsUnsigned, unsigned, typed]
      cases found : Column.typeName? behind with
      | none => exact .refl _
      | some pair =>
          rcases pair with ⟨typeName, typeEnd⟩
          simp only [Option.bind_some]
          cases Column.matchKeyword typeName with
          | none => exact .refl _
          | some keyword =>
              exact ofCategory_literal opens beforeRest indistinct rest found _ _ _

/-! ## The block -/

omit before indistinct in
theorem tidied_literal (pieces : List Text) :
    tidied ((front ++ (quote :: content ++ [quote] ++ rest)) :: pieces) =
      (Text.squeeze true front ++ quote :: (Text.squeeze false content ++
        quote :: (Text.squeeze false rest).rdropWhile Character.isBlank)) :: tidied pieces := by
  have solid := isBlank_of_isQuote (isQuote_of_opens opens)
  have collapsed : Text.collapse (front ++ (quote :: content ++ [quote] ++ rest)) =
      Text.squeeze true front ++ quote :: (Text.squeeze false content ++
        quote :: (Text.squeeze false rest).rdropWhile Character.isBlank) := by
    rw [← quoted_append, List.cons_append, Text.collapse_append_solid solid,
      Text.squeeze_append_solid solid, Text.rdropWhile_append_cons solid]
  have nonempty : Text.collapse (front ++ (quote :: content ++ [quote] ++ rest)) ≠ [] := by
    rw [collapsed]
    simp
  rw [tidied_cons nonempty, collapsed]

omit before in
/-- Blocks that differ in the content of a literal are read alike. -/
theorem parse_literal (lexical : Lexical false Unescaped front)
    (body : Scan.start.run front = ⟨.plain, 1⟩) (single : front.getLast? ≠ some quote)
    {character : Char} {tail : Text} (head : front = character :: tail)
    (spelled : Character.spells 'c' character = true) :
    Agree (Table.parse (front ++ (quote :: content ++ [quote] ++ rest)))
      (Table.parse (front ++ (quote :: other ++ [quote] ++ rest))) := by
  have known := isQuote_of_opens opens
  have closed := indistinct.complete.closed known
  have closedOther := indistinct.completeOther.closed known
  have plain : (Scan.start.run front).mode = .plain := by rw [body]
  rcases exists_between plain rest with
    ⟨pieces, same⟩ | ⟨earlier, last, first, others, between⟩
  · exact Table.parse_of_tidied (by rw [same _ closed, same _ closedOther])
  · rcases between.body (by rw [body]; decide) with ⟨more, rfl⟩
    have outside := between.run
    rw [body] at outside
    have before : Before quote last := {
      lexical := between.lexical _ (fun _ => id) lexical
      outside := outside
      single := by
        rcases between.starts with ⟨lead, whole⟩
        intro ends
        apply single
        rw [← whole, List.getLast?_append, ends]
        rfl }
    have pieces := candidates_of_pieces?_eq_some (between.pieces _ closed)
    have piecesOther := candidates_of_pieces?_eq_some (between.pieces _ closedOther)
    rcases tidied_unopened head spelled with ⟨behind, tidy⟩
    rw [tidied_append, tidy, tidied_literal opens] at pieces piecesOther
    rw [Table.parse_of_candidates pieces, Table.parse_of_candidates piecesOther]
    exact Reading.ofCandidates_interchangeable rfl (.refl _)
      (List.rel_append (Reading.interchangeable_refl _)
        (.cons (interchangeable_literal opens (before.squeeze opens) (indistinct.squeeze opens) _)
          (Reading.interchangeable_refl _)))

end Declaration

/-! ## The document -/

/-- The text stops where the value of a DEFAULT in the body of a table starts. -/
structure StopsAtDefault (before : Text) : Prop where
  lexical : Lexical true Unescaped (Cut.last before)
  body : Scan.start.run (stripComments (Cut.last before)) = ⟨.plain, 1⟩
  keyword : ∃ front word gap, stripComments (Cut.last before) = front ++ (word ++ gap) ∧
    Spelled "default" word ∧ ∀ character ∈ gap, Character.isBlank character = true

theorem rdropWhile_word {letters word gap : Text} (spelled : Spelled letters word)
    (plain : ∀ letter ∈ letters, Character.IsPlainLetter letter) (nonempty : letters ≠ [])
    (blank : ∀ character ∈ gap, Character.isBlank character = true) (front : Text) :
    (front ++ (word ++ gap)).rdropWhile Character.isBlank = front ++ word := by
  have solid : ∀ character ∈ word, Character.isBlank character = false := by
    intro character member
    rcases exists_of_mem_right spelled member with ⟨letter, known, spelledBy⟩
    exact Character.isBlank_eq_false_of_spells (plain letter known) spelledBy
  cases spelled with
  | nil => exact absurd rfl nonempty
  | cons first later =>
      rw [List.forall_mem_cons] at solid
      rw [List.cons_append, Text.rdropWhile_append_cons solid.1,
        Text.rdropWhile_append_of_wanted solid.2 blank]

/-- A text does not end with two words that differ in their first letters only. -/
theorem first_letter_eq {letters others word wordOther gap gapOther front frontOther : Text}
    {letter other : Char} (spelled : Spelled (letter :: letters) word)
    (spelledOther : Spelled (other :: others) wordOther)
    (plain : ∀ character ∈ letter :: letters, Character.IsPlainLetter character)
    (plainOther : ∀ character ∈ other :: others, Character.IsPlainLetter character)
    (lengths : letters.length = others.length)
    (blank : ∀ character ∈ gap, Character.isBlank character = true)
    (blankOther : ∀ character ∈ gapOther, Character.isBlank character = true)
    (same : front ++ (word ++ gap) = frontOther ++ (wordOther ++ gapOther)) : letter = other := by
  have short := congrArg (List.rdropWhile Character.isBlank) same
  rw [rdropWhile_word spelled plain (List.cons_ne_nil _ _) blank,
    rdropWhile_word spelledOther plainOther (List.cons_ne_nil _ _) blankOther] at short
  have sameLength : word.length = wordOther.length := by
    rw [← spelled.length_eq, ← spelledOther.length_eq, List.length_cons, List.length_cons, lengths]
  rcases List.append_inj' short sameLength with ⟨-, rfl⟩
  cases spelled with
  | cons first _ =>
      cases spelledOther with
      | cons firstOther _ =>
          by_contra different
          have foreign := Character.spells_eq_false (plain _ List.mem_cons_self) first
            (plainOther _ List.mem_cons_self) different
          rw [firstOther] at foreign
          cases foreign

namespace StopsAtDefault

variable {before : Text} (stops : StopsAtDefault before)

include stops

/-- No literal that starts here is an annotation. -/
theorem note?_ne_some {part : Text} (suffix : part <:+ stripComments (Cut.last before)) :
    note? part ≠ some [] := by
  intro noted
  rcases stops.keyword with ⟨front, word, gap, whole, spelled, blank⟩
  rcases Option.bind_eq_some_iff.mp noted with ⟨behind, first, second⟩
  rcases word?_eq_some_iff.mp first with ⟨wordOther, rfl, spelledOther⟩
  rcases blanks?_eq_some second with ⟨gapOther, rfl, -, blankOther, -⟩
  rcases suffix with ⟨lead, same⟩
  rw [List.append_nil, whole] at same
  have letters := first_letter_eq spelled spelledOther (by decide) (by decide) rfl blank
    blankOther same.symm
  exact absurd letters (by decide)

/-- What is left of the text ends with a character that is not a quote. -/
theorem unquoted_last : stripComments (Cut.last before) ≠ [] ∧
    ∀ last, (stripComments (Cut.last before)).getLast? = some last → isQuote last = false := by
  rcases stops.keyword with ⟨front, word, gap, whole, spelled, blank⟩
  have nonempty : word ++ gap ≠ [] := by
    cases spelled
    simp
  refine ⟨by simp [whole, nonempty], fun last found => ?_⟩
  rw [whole, List.getLast?_append_of_ne_nil _ nonempty] at found
  rcases List.mem_append.mp (List.mem_of_getLast? found) with inWord | inGap
  · exact (isMarkerCharacter_of_spelled spelled (by decide) last inWord).unquoted
  · exact unquoted_of_blank blank last inGap

variable {quote : Char} (opens : quote = '\'' ∨ quote = '"') {content after : Text}
  (starts : before.getLast? ≠ some quote)

include opens starts

/-- Nothing that is removed before the literal goes on in it. -/
theorem meets (rest : Text) : Meets none (Cut.last before) (quote :: rest) where
  noBlock := by rcases opens with rfl | rfl <;> simp
  noDash := by rcases opens with rfl | rfl <;> simp
  noLine _ _ _ := by
    rw [lineLength?_eq_none_iff]
    rcases opens with rfl | rfl <;> rfl
  noDouble := by
    rintro second - last ⟨⟩
    rcases Cut.last_suffix before with ⟨lead, whole⟩
    apply starts
    rw [← whole, List.getLast?_append, last]
    rfl
  noNote part _ suffix inside := by
    have fences := fences_of_opens opens
    have bars : Bars note? quote :=
      (bars_word (by rcases opens with rfl | rfl <;> decide)).bind (bars_blanks fences.solid)
    have bounded := stops.note?_ne_some suffix
    rw [annotationLength?_eq, bars part rest]
    cases noted : note? part with
    | none => rfl
    | some behind =>
        rcases note?_eq_some noted with ⟨front, rfl, -, -⟩
        cases behind with
        | nil => exact absurd noted bounded
        | cons first behind =>
            have unquoted := (inside first (by simp)).unquoted
            have other : ¬ (first = '\'' ∨ first = '"') := by
              intro quoted
              rw [isQuote_of_opens quoted] at unquoted
              cases unquoted
            simp [literalLength?, other]

/-- What the declaration is made of that holds the literal. -/
theorem around_eq (ends : after.head? ≠ some quote) (complete : Complete quote content) :
    Table.around before (quote :: content ++ [quote]) after =
      stripComments (Cut.last before) ++ (quote :: content ++ [quote] ++
        stripFrom (some quote) 0 true (Block.raw ⟨0, (Cut.ofText after).lead⟩)) := by
  have single : (Block.raw ⟨0, (Cut.ofText after).lead⟩).head? ≠ some quote := by
    have front : Block.raw ⟨0, (Cut.ofText after).lead⟩ <+: after :=
      (List.take_prefix _ _).trans ⟨_, Cut.lead_append_slices after⟩
    intro first
    rcases front with ⟨rest, whole⟩
    apply ends
    rw [← whole, List.head?_append, first]
    rfl
  have last : (quote :: content ++ [quote]).getLast? = some quote := by
    rw [List.getLast?_append]
    rfl
  have apart := stops.lexical.stripFrom_append
    (stops.meets opens starts (content ++ [quote] ++ Block.raw ⟨0, (Cut.ofText after).lead⟩))
  have kept := stripFrom_pieceAt (by simp)
    (pieceAt_literal opens complete single ((Cut.last before).getLast?.or none))
  rw [last] at kept
  exact apart.trans (congrArg _ kept)

end StopsAtDefault

namespace Table

section Document

variable {quote : Char} (opens : quote = '\'' ∨ quote = '"') {before content other after : Text}

include opens

theorem uncut_literal (noMarker : occurs tableMarker? content = false)
    (noEngine : occurs engineClause? content = false) (before after : Text) :
    Uncut before (quote :: content ++ [quote]) after := by
  have fences := fences_of_opens opens
  have barsMarker : Bars tableMarker? quote :=
    bars_phrase (by rcases opens with rfl | rfl <;> decide) fences.solid
  have barsEngine : Bars engineClause? quote :=
    bars_engineClause (by rcases opens with rfl | rfl <;> decide) fences.solid
      (by rcases opens with rfl | rfl <;> decide)
  have silent {matcher : Text → Option Text} (bars : Bars matcher quote)
      (nothing : matcher [] = none) (absent : occurs matcher content = false) (rest : Text) :
      Silent matcher (quote :: content ++ [quote]) rest :=
    (@silent_bar matcher quote bars nothing [] (content ++ [quote]) rest).mpr
      ⟨trivial, (silent_bar bars nothing).mpr ⟨silent_nil_iff.mpr absent, trivial⟩⟩
  exact ⟨⟨within_of_bars barsMarker _ _, silent barsMarker rfl noMarker _⟩,
    within_of_bars barsEngine _ _, silent barsEngine rfl noEngine _⟩

/-- A document is read alike whatever stands in a literal that is the value of a DEFAULT, if
that has no marker and no ENGINE clause in it, and speaks of UNSIGNED as what it replaces. -/
theorem default_is_opaque (stops : StopsAtDefault before) (starts : before.getLast? ≠ some quote)
    (ends : after.head? ≠ some quote) (complete : Complete quote content)
    (completeOther : Complete quote other)
    (unsigned : mentionsUnsigned content = mentionsUnsigned other)
    (uncut : ∀ text ∈ [content, other],
      occurs tableMarker? text = false ∧ occurs engineClause? text = false) :
    Agree (parseSchema (before ++ (quote :: content ++ [quote] ++ after)))
      (parseSchema (before ++ (quote :: other ++ [quote] ++ after))) := by
  have here := uncut content (by simp)
  have there := uncut other (by simp)
  have around := stops.around_eq opens starts ends complete
  have aroundOther := stops.around_eq opens starts ends completeOther
  rcases stops.unquoted_last with ⟨nonempty, unquoted⟩
  apply parseSchema_splice (uncut_literal opens here.1 here.2 before after)
    (uncut_literal opens there.1 there.2 before after)
  rintro ⟨character, tail, head, spelled⟩
  rcases List.exists_cons_of_ne_nil nonempty with ⟨first, behind, whole⟩
  rw [around, whole, List.cons_append] at head
  rcases List.cons_eq_cons.mp head with ⟨rfl, -⟩
  have single : (stripComments (Cut.last before)).getLast? ≠ some quote := by
    intro last
    have known := isQuote_of_opens opens
    rw [unquoted quote last] at known
    cases known
  rw [around, aroundOther]
  exact parse_literal opens ⟨complete, completeOther, unsigned, here.1.trans there.1.symm⟩ _
    (stops.lexical.stripped none) stops.body single whole spelled

end Document

set_option maxRecDepth 8000 in
/-- The words of a key, a quote and the start of a comment mean nothing in a default. -/
theorem default_of_key_words :
    let block : Text := "CREATE TABLE `t` (`e` ENUM('it''s') COMMENT 'x', -- key\n" ++
      "`n` VARCHAR(9) DEFAULT /* , */ "
    let before : Text := "CREATE TABLE `s` (`id` INT) ENGINE=InnoDB; " ++ block
    let content : Text := "PRIMARY KEY (`n`), it''s /* a \\' TIMESTAMP"
    let other : Text := []
    let after : Text := " NOT NULL, `id` INT, PRIMARY KEY (`id`)) ENGINE=InnoDB;"
    StopsAtDefault before ∧ before.getLast? ≠ some '\'' ∧ after.head? ≠ some '\'' ∧
      Complete '\'' content ∧ Complete '\'' other ∧
      mentionsUnsigned content = mentionsUnsigned other ∧
      (∀ text ∈ [content, other],
        occurs tableMarker? text = false ∧ occurs engineClause? text = false) ∧
      Agree (parseSchema (before ++ ('\'' :: content ++ ['\''] ++ after)))
        (parseSchema (before ++ ('\'' :: other ++ ['\''] ++ after))) := by
  intro block before content other after
  have last : Cut.last before = block := by decide
  have stripped : stripComments block =
      "CREATE TABLE `t` (`e` ENUM('it''s') ,\n`n` VARCHAR(9) " ++ ("DEFAULT" ++ "  ") := by
    decide
  have stops : StopsAtDefault before := {
    lexical := by
      rw [last]
      exact .mono (fun _ => IsName.unescaped) (@reads_of_lexes .plain _ (by decide))
    body := by
      rw [last, stripped]
      decide
    keyword := by
      rw [last, stripped]
      exact ⟨_, _, _, rfl, by decide, by decide⟩ }
  have complete : Complete '\'' content :=
    (@Complete.of_plain _ "PRIMARY KEY (`n`), it" (by decide)).append
      (.doubled ((@Complete.of_plain _ "s /* a " (by decide)).append
        (.escaped (.of_plain (by decide)))))
  have starts : before.getLast? ≠ some '\'' := by decide
  have ends : after.head? ≠ some '\'' := by decide
  have unsigned : mentionsUnsigned content = mentionsUnsigned other := by decide
  have uncut : ∀ text ∈ [content, other],
      occurs tableMarker? text = false ∧ occurs engineClause? text = false := by decide
  have agree := default_is_opaque (.inl rfl) stops starts ends complete .nil unsigned uncut
  exact ⟨stops, starts, ends, complete, .nil, unsigned, uncut, agree⟩

set_option maxRecDepth 8000 in
/-- A default that says UNSIGNED makes its column unsigned. -/
theorem unsigned_default_is_read :
    ¬ ∀ before content other after : Text, StopsAtDefault before →
      before.getLast? ≠ some '\'' → after.head? ≠ some '\'' →
        Complete '\'' content → Complete '\'' other →
          Agree (parseSchema (before ++ ('\'' :: content ++ ['\''] ++ after)))
            (parseSchema (before ++ ('\'' :: other ++ ['\''] ++ after))) := by
  intro hidden
  let before : Text := "CREATE TABLE `t` (`id` INT, `n` INT DEFAULT "
  let after : Text := ", PRIMARY KEY (`id`)) ENGINE=InnoDB;"
  let declared (unsigned : Bool) : Option (List Table) :=
    some [⟨"t", "id", [⟨"n", some .int32, some 0, unsigned, []⟩]⟩]
  have last : Cut.last before = before := by decide
  have stripped : stripComments before =
      "CREATE TABLE `t` (`id` INT, `n` INT " ++ ("DEFAULT" ++ " ") := by
    decide
  have stops : StopsAtDefault before := {
    lexical := by
      rw [last]
      exact .mono (fun _ => IsName.unescaped) (@reads_of_lexes .plain _ (by decide))
    body := by
      rw [last, stripped]
      decide
    keyword := by
      rw [last, stripped]
      exact ⟨_, _, _, rfl, by decide, by decide⟩ }
  have agree := hidden before "unsigned" "x" after stops (by decide) (by decide)
    (.of_plain (by decide)) (.of_plain (by decide))
  have signed : (parseSchema (before ++ ('\'' :: "x" ++ ['\''] ++ after))).toOption =
      declared false := by
    decide
  have read : (parseSchema (before ++ ('\'' :: "unsigned" ++ ['\''] ++ after))).toOption =
      declared true := by
    decide
  rw [agree.toOption_eq, signed] at read
  exact absurd read (by decide)

end Table

end SchemaSeed
