import SchemaSeed.Proofs.Sql.Blanks
import SchemaSeed.Proofs.Sql.Lexical
import SchemaSeed.Proofs.Sql.Pieces
import SchemaSeed.Proofs.Text.Squeezed

/-! A text in two halves.  What a scan makes of the whole is said by what it makes of the
first half and, from where it stands then, of the second one.  If the first half is lexical,
so is the part of it that belongs to the same list or group as the start of the second. -/

namespace SchemaSeed

namespace Sql

/-! ## Groups and lists -/

theorem opened?_append {scan : Scan} (outside : scan.depth = 0) (left right : Text) :
    opened? scan (left ++ right) =
      ((opened? scan left).map (· ++ right)).or (opened? (scan.run left) right) := by
  induction left generalizing scan with
  | nil => rfl
  | cons character left induction =>
      simp only [List.cons_append, opened?, Scan.run_cons]
      split
      · exact induction ‹_›
      · rfl

theorem unopened_append_of_opened {scan : Scan} {left rest : Text}
    (opens : opened? scan left = some rest) (right : Text) :
    unopened scan (left ++ right) = unopened scan left := by
  induction left generalizing scan with
  | nil => cases opens
  | cons character left induction =>
      simp only [List.cons_append, opened?, unopened] at opens ⊢
      split
      · rename_i still
        rw [if_pos still] at opens
        rw [induction opens]
      · rfl

theorem unopened_append_of_closed {scan : Scan} {left : Text}
    (closed : opened? scan left = none) (right : Text) :
    unopened scan (left ++ right) = left ++ unopened (scan.run left) right := by
  induction left generalizing scan with
  | nil => rfl
  | cons character left induction =>
      simp only [opened?] at closed
      simp only [List.cons_append, unopened, Scan.run_cons]
      split
      · rename_i still
        rw [if_pos still] at closed
        rw [induction closed]
      · rename_i within
        rw [if_neg within] at closed
        cases closed

theorem depth_of_closed {scan : Scan} (outside : scan.depth = 0) {left : Text}
    (closed : opened? scan left = none) : (scan.run left).depth = 0 := by
  induction left generalizing scan with
  | nil => exact outside
  | cons character left induction =>
      simp only [opened?] at closed
      split at closed
      · exact induction ‹_› closed
      · cases closed

/-- The scan of the first opening parenthesis. -/
theorem run_of_opened {scan : Scan} (outside : scan.depth = 0) {left rest : Text}
    (opens : opened? scan left = some rest) :
    (scan.run (unopened scan left)).mode = .plain ∧
      scan.run left = Scan.run ⟨.plain, 1⟩ rest := by
  induction left generalizing scan with
  | nil => cases opens
  | cons character left induction =>
      simp only [opened?, unopened] at opens ⊢
      split
      · rename_i still
        rw [if_pos still] at opens
        exact induction still opens
      · rename_i within
        rw [if_neg within] at opens
        cases opens
        rcases step_opens outside within with ⟨rfl, step⟩
        refine ⟨?_, by rw [Scan.run_cons, step]⟩
        rcases scan with ⟨mode, depth⟩
        cases mode with
        | plain => rfl
        | quoted => exact absurd outside within

/-- A group goes on behind text that it holds as a whole. -/
theorem inside_append (scan : Scan) (left right : Text) :
    inside scan (left ++ right) =
      if inside scan left = left then left ++ inside (scan.run left) right
      else inside scan left := by
  induction left generalizing scan with
  | nil => rfl
  | cons character left induction =>
      simp only [List.cons_append, inside, Scan.run_cons]
      split
      · rfl
      · rw [induction]
        simp only [List.cons.injEq, true_and]
        split <;> rfl

/-- Within a group that is not left, one parenthesis more is open than without it. -/
theorem run_of_inside {mode : Mode} {depth : Nat} {left : Text}
    (held : inside ⟨mode, depth + 1⟩ left = left) :
    Scan.run ⟨mode, depth + 1⟩ left =
      ⟨(Scan.run ⟨mode, depth⟩ left).mode, (Scan.run ⟨mode, depth⟩ left).depth + 1⟩ := by
  have shifted : ∀ (mode : Mode) (depth : Nat) (character : Char),
      (Scan.step ⟨mode, depth + 1⟩ character).depth ≠ 0 →
        Scan.step ⟨mode, depth + 1⟩ character =
          ⟨(Scan.step ⟨mode, depth⟩ character).mode,
            (Scan.step ⟨mode, depth⟩ character).depth + 1⟩ := by
    intro mode depth character within
    cases mode with
    | quoted => rfl
    | plain =>
        simp only [Scan.step] at within ⊢
        split
        · rfl
        · rename_i noOpening
          rw [if_neg noOpening] at within
          split
          · rename_i closing
            rw [if_pos closing] at within
            simp only at within ⊢
            congr 1
            omega
          · rfl
  induction left generalizing mode depth with
  | nil => rfl
  | cons character left induction =>
      simp only [inside] at held
      split at held
      · cases held
      · rename_i within
        have step := shifted mode depth character within
        rw [step] at held
        rw [Scan.run_cons, Scan.run_cons, step]
        exact induction (List.cons_eq_cons.mp held).2

/-- The last part of a text goes on in what follows it. -/
theorem exists_parts (scan : Scan) (left : Text) :
    ∃ earlier last,
      (∀ right, partsFrom "," scan (left ++ right) =
        earlier ++ continued last (partsFrom "," (scan.run left) right)) ∧
      (earlier = [] ∧ last = left ∨
        earlier ≠ [] ∧ ∃ front, left = front ++ ',' :: last ∧ scan.run front = Scan.start) := by
  induction left generalizing scan with
  | nil => exact ⟨[], [], fun right => (continued_nil_partsFrom _ _ _).symm, .inl ⟨rfl, rfl⟩⟩
  | cons character left induction =>
      rcases induction (scan.step character) with ⟨earlier, last, parts, shape⟩
      cases separates : Parts.separates "," scan character with
      | true =>
          have stays := step_of_separates separates
          have comma : character = ',' ∧ scan = Scan.start := by
            simp only [Parts.separates, Scan.isTop, Bool.and_eq_true, beq_iff_eq] at separates
            rcases scan with ⟨mode, depth⟩
            rcases separates with ⟨⟨⟨⟨rfl, rfl⟩, same⟩, -⟩, -⟩
            exact ⟨(List.cons_eq_cons.mp same).1.symm, rfl⟩
          refine ⟨[] :: earlier, last, fun right => ?_, .inr ⟨by simp, ?_⟩⟩
          · rw [List.cons_append, partsFrom, if_pos separates, Scan.run_cons]
            rw [stays] at parts ⊢
            rw [parts right]
            rfl
          · rw [stays] at shape
            rcases shape with ⟨-, rfl⟩ | ⟨-, front, rfl, run⟩
            · exact ⟨[], by rw [comma.1]; rfl, comma.2⟩
            · exact ⟨character :: front, rfl, by rwa [Scan.run_cons, stays]⟩
      | false =>
          have whole (right : Text) : partsFrom "," scan (character :: left ++ right) =
              continued [character] (earlier ++ continued last
                (partsFrom "," (scan.run (character :: left)) right)) := by
            rw [List.cons_append, partsFrom, separates, parts right]
            rfl
          rcases shape with ⟨rfl, rfl⟩ | ⟨nonempty, front, rfl, run⟩
          · refine ⟨[], character :: last, fun right => ?_, .inl ⟨rfl, rfl⟩⟩
            rw [whole, List.nil_append, List.nil_append, ← continued_append]
            rfl
          · rcases List.exists_cons_of_ne_nil nonempty with ⟨first, others, rfl⟩
            exact ⟨(character :: first) :: others, last, whole,
              .inr ⟨by simp, character :: front, rfl, run⟩⟩

/-! ## Lexical halves -/

theorem Complete.closed {quote : Char} {content : Text} (complete : Complete quote content)
    (opens : isQuote quote = true) : Closed (quote :: content ++ [quote]) := by
  -- A doubled quote closes one literal and opens another one to a scan.
  suffices whole : ∀ front, Enclosed quote front →
      Closed (quote :: (front ++ content) ++ [quote]) from whole [] .nil
  induction complete with
  | nil =>
      intro front enclosed
      rw [List.append_nil]
      exact closed_quoted opens enclosed
  | @plain character rest different noEscape _ induction =>
      intro front enclosed
      have closed := induction (front ++ [character])
        (enclosed.append (.plain different noEscape .nil))
      simpa using closed
  | @escaped character rest _ induction =>
      intro front enclosed
      have closed := induction (front ++ ['\\', character]) (enclosed.append (.escaped .nil))
      simpa using closed
  | @doubled rest _ induction =>
      intro front enclosed
      have closed := (closed_quoted opens enclosed).append (induction [] .nil)
      simpa using closed

/-- What stands outside of quotes to a scan stands behind the end of a literal. -/
theorem Complete.behind {quote character : Char} {content front rest behind : Text}
    (complete : Complete quote content) (opens : isQuote quote = true)
    (unquoted : isQuote character = false)
    (shape : content ++ quote :: rest = front ++ character :: behind) {depth : Nat}
    (outside : (Scan.run ⟨.quoted quote false, depth⟩ front).mode = .plain) :
    ∃ more, front = content ++ quote :: more ∧ rest = more ++ character :: behind := by
  have different : character ≠ quote := by
    rintro rfl
    rw [opens] at unquoted
    cases unquoted
  induction complete generalizing front with
  | nil =>
      cases front with
      | nil => exact absurd (List.cons_eq_cons.mp shape).1.symm different
      | cons first front =>
          cases shape
          exact ⟨front, rfl, rfl⟩
  | plain other noEscape _ induction =>
      cases front with
      | nil => cases outside
      | cons first front =>
          rcases List.cons_eq_cons.mp shape with ⟨rfl, later⟩
          rw [Scan.run_cons, step_quoted other noEscape] at outside
          rcases induction later outside with ⟨more, rfl, same⟩
          exact ⟨more, rfl, same⟩
  | escaped _ induction =>
      match front with
      | [] | [_] =>
          cases shape
          cases outside
      | first :: second :: front =>
          rcases List.cons_eq_cons.mp shape with ⟨rfl, later⟩
          rcases List.cons_eq_cons.mp later with ⟨rfl, deeper⟩
          rcases induction deeper outside with ⟨more, rfl, same⟩
          exact ⟨more, rfl, same⟩
  | doubled _ induction =>
      match front with
      | [] => cases outside
      | [first] =>
          rcases List.cons_eq_cons.mp shape with ⟨rfl, later⟩
          exact absurd (List.cons_eq_cons.mp later).1.symm different
      | first :: second :: front =>
          rcases List.cons_eq_cons.mp shape with ⟨rfl, later⟩
          rcases List.cons_eq_cons.mp later with ⟨rfl, deeper⟩
          rw [Scan.run_cons, Scan.run_cons, step_close_quote opens, step_open_quote opens]
            at outside
          rcases induction deeper outside with ⟨more, rfl, same⟩
          exact ⟨more, rfl, same⟩

theorem behind_quoted {quote character : Char} {content front rest behind : Text}
    (opens : isQuote quote = true) (complete : Complete quote content)
    (unquoted : isQuote character = false)
    (shape : quote :: content ++ quote :: rest = front ++ character :: behind) {depth : Nat}
    (outside : (Scan.run ⟨.plain, depth⟩ front).mode = .plain) :
    ∃ more, rest = more ++ character :: behind ∧
      (Scan.run ⟨.plain, depth⟩ more).mode = .plain := by
  cases front with
  | nil =>
      rw [← (List.cons_eq_cons.mp shape).1, opens] at unquoted
      cases unquoted
  | cons first front =>
      rcases List.cons_eq_cons.mp shape with ⟨rfl, later⟩
      have inside := outside
      rw [Scan.run_cons, step_open_quote opens] at inside
      rcases complete.behind opens unquoted later inside with ⟨more, rfl, same⟩
      have returns := (complete.closed opens).returns depth
      rw [← List.cons_append, quoted_append, Scan.run_append, returns] at outside
      exact ⟨more, same, outside⟩

theorem Unescaped.complete {name : Text} (unescaped : Unescaped name)
    (inside : ∀ character ∈ name, character ≠ backtick) : Complete backtick name :=
  .of_plain fun character member => ⟨inside character member, (unescaped character member).2.2⟩

/-- Outside of quotes a plain character changes the depth at most. -/
theorem step_unquoted {character : Char} (unquoted : isQuote character = false) (depth : Nat) :
    ∃ next, Scan.step ⟨.plain, depth⟩ character = ⟨.plain, next⟩ := by
  simp only [Scan.step, Mode.step, unquoted]
  split
  · exact ⟨_, rfl⟩
  · split <;> exact ⟨_, rfl⟩

/-- Lexical text ends outside of quotes to a scan. -/
theorem Lexical.mode {text : Text} (lexical : Lexical false Unescaped text) (depth : Nat) :
    (Scan.run ⟨.plain, depth⟩ text).mode = .plain := by
  induction lexical generalizing depth with
  | nil => rfl
  | @plain character rest unquoted _ _ induction =>
      rcases step_unquoted unquoted depth with ⟨next, step⟩
      rw [Scan.run_cons, step]
      exact induction next
  | literal opens complete _ _ induction =>
      have returns := (complete.closed (isQuote_of_opens opens)).returns depth
      rw [quoted_append, Scan.run_append, returns]
      exact induction depth
  | name inside admitted _ induction =>
      have returns := ((Unescaped.complete admitted inside).closed (by decide)).returns depth
      rw [quoted_append, Scan.run_append, returns]
      exact induction depth
  | block comments | line comments => cases comments

/-- Behind a character outside of quotes a lexical text goes on. -/
theorem Lexical.behind {admits : Text → Prop} {text front rest : Text} {character : Char}
    (lexical : Lexical false admits text) (unescaped : ∀ name, admits name → Unescaped name)
    (unquoted : isQuote character = false) (shape : text = front ++ character :: rest)
    {depth : Nat} (outside : (Scan.run ⟨.plain, depth⟩ front).mode = .plain) :
    Lexical false admits rest := by
  induction lexical generalizing front depth with
  | nil => simp at shape
  | @plain first behind unquotedFirst _ later induction =>
      cases front with
      | nil =>
          cases shape
          exact later
      | cons other front =>
          rcases List.cons_eq_cons.mp shape with ⟨rfl, same⟩
          rcases step_unquoted unquotedFirst depth with ⟨next, step⟩
          rw [Scan.run_cons, step] at outside
          exact induction same outside
  | literal opens complete _ _ induction =>
      rcases behind_quoted (isQuote_of_opens opens) complete unquoted shape outside with
        ⟨more, same, outsideMore⟩
      exact induction same outsideMore
  | name inside admitted _ induction =>
      have complete := (unescaped _ admitted).complete inside
      rcases behind_quoted (by decide) complete unquoted shape outside with
        ⟨more, same, outsideMore⟩
      exact induction same outsideMore
  | block comments | line comments => cases comments

/-- A mask is taken of lexical text as if nothing followed it. -/
theorem Lexical.mask_append {left right : Text} (lexical : Lexical false Unescaped left)
    (noDouble : ∀ quote, (quote = '\'' ∨ quote = '"') → left.getLast? = some quote →
      right.head? ≠ some quote) :
    mask (left ++ right) = mask left ++ mask right := by
  induction lexical with
  | nil => rfl
  | @plain character rest unquoted _ _ induction =>
      have ordinary : character ≠ '\'' ∧ character ≠ '"' := by
        constructor <;> (rintro rfl; cases unquoted)
      rw [List.cons_append, mask_other (behindLiteral?_of_ordinary ordinary _),
        mask_other (behindLiteral?_of_ordinary ordinary _), induction, List.cons_append]
      intro quote opens last
      exact noDouble quote opens (by rw [List.getLast?_cons, last]; rfl)
  | @literal quote content rest opens complete single _ induction =>
      have ends : (rest ++ right).head? ≠ some quote := by
        apply @head?_append_ne quote right (quote :: content) rest _ single
        intro last
        exact noDouble quote opens (by simpa using last)
      have shape : quote :: content ++ quote :: rest ++ right =
          quote :: content ++ quote :: (rest ++ right) := by simp
      rw [mask_literal (complete.behindLiteral? opens single), shape,
        mask_literal (complete.behindLiteral? opens ends), induction]
      · rfl
      · intro other otherOpens last
        apply noDouble other otherOpens
        rw [List.getLast?_append, List.getLast?_cons, last]
        rfl
  | @name name rest inside admitted _ induction =>
      have plain : ∀ character ∈ backtick :: name ++ [backtick],
          character ≠ '\'' ∧ character ≠ '"' := by
        intro character member
        rcases List.mem_append.mp member with front | last
        · rcases List.mem_cons.mp front with rfl | within
          · decide
          · exact ⟨(admitted character within).1, (admitted character within).2.1⟩
        · rw [List.mem_singleton.mp last]
          decide
      rw [quoted_append, List.append_assoc (backtick :: name ++ [backtick]),
        Sql.mask_append plain, Sql.mask_append plain, induction]
      · exact (List.append_assoc _ _ _).symm
      · intro other opens last
        apply noDouble other opens
        rw [List.getLast?_append, List.getLast?_cons, last]
        rfl
  | block comments | line comments => cases comments

theorem isBlank_of_isQuote {quote : Char} (opens : isQuote quote = true) :
    Character.isBlank quote = false := by
  cases blank : Character.isBlank quote with
  | false => rfl
  | true =>
      rw [(ordinary_of_blank blank).1] at opens
      cases opens

theorem Complete.squeeze {quote : Char} {content : Text} (complete : Complete quote content)
    (opens : isQuote quote = true) (gap : Bool) : Complete quote (Text.squeeze gap content) := by
  have solid := isBlank_of_isQuote opens
  have space : ' ' ≠ quote := by
    rintro rfl
    cases opens
  induction complete generalizing gap with
  | nil => exact .nil
  | plain different noEscape _ induction =>
      simp only [Text.squeeze]
      split
      · split
        · exact induction true
        · exact .plain space (by decide) (induction true)
      · exact .plain different noEscape (induction false)
  | @escaped character rest _ induction =>
      rw [Text.squeeze_solid_cons (by decide)]
      simp only [Text.squeeze]
      split
      · exact .escaped (induction true)
      · exact .escaped (induction false)
  | doubled _ induction =>
      rw [Text.squeeze_solid_cons solid, Text.squeeze_solid_cons solid]
      exact .doubled (induction false)

theorem Unescaped.squeeze {name : Text} (unescaped : Unescaped name) :
    Unescaped (Text.squeeze false name) := by
  intro character member
  rcases Text.mem_squeeze member with rfl | known
  · decide
  · exact unescaped character known

/-- Squeezed lexical text is lexical, and means the same to a scan. -/
theorem Lexical.squeeze {admits : Text → Prop} {text : Text} (lexical : Lexical false admits text)
    (unescaped : ∀ name, admits name → Unescaped name)
    (short : ∀ name, admits name → admits (Text.squeeze false name)) (gap : Bool) :
    Lexical false admits (Text.squeeze gap text) ∧
      ∀ depth, Scan.run ⟨.plain, depth⟩ (Text.squeeze gap text) =
        Scan.run ⟨.plain, depth⟩ text := by
  have quoted {quote : Char} {content rest : Text} (opens : isQuote quote = true) (gap : Bool) :
      Text.squeeze gap (quote :: content ++ quote :: rest) =
        quote :: Text.squeeze false content ++ quote :: Text.squeeze false rest := by
    rw [List.cons_append, Text.squeeze_solid_cons (isBlank_of_isQuote opens),
      Text.squeeze_append_solid (isBlank_of_isQuote opens), List.cons_append]
  have runs {quote : Char} {content rest : Text} (opens : isQuote quote = true)
      (complete : Complete quote content) (depth : Nat) :
      Scan.run ⟨.plain, depth⟩ (quote :: content ++ quote :: rest) =
        Scan.run ⟨.plain, depth⟩ rest := by
    rw [quoted_append, Scan.run_append, (complete.closed opens).returns]
  induction lexical generalizing gap with
  | nil => exact ⟨.nil, fun _ => rfl⟩
  | @plain character rest unquoted _ _ induction =>
      simp only [Text.squeeze]
      split
      · rename_i blank
        have stays (depth : Nat) : Scan.step ⟨.plain, depth⟩ character = ⟨.plain, depth⟩ :=
          step_blank blank (reads_plain true depth)
        rcases induction true with ⟨lexical, run⟩
        split
        · exact ⟨lexical, fun depth => by rw [run, Scan.run_cons, stays]⟩
        · refine ⟨.plain (by decide) (by simp) lexical, fun depth => ?_⟩
          rw [Scan.run_cons, Scan.run_cons, stays, ← run]
          rfl
      · rcases induction false with ⟨lexical, run⟩
        refine ⟨.plain unquoted (by simp) lexical, fun depth => ?_⟩
        rcases step_unquoted unquoted depth with ⟨next, step⟩
        rw [Scan.run_cons, Scan.run_cons, step, run]
  | @literal quote content rest opens complete single _ induction =>
      have known := isQuote_of_opens opens
      rcases induction false with ⟨lexical, run⟩
      rw [quoted known]
      refine ⟨.literal opens (complete.squeeze known false) ?_ lexical, fun depth => ?_⟩
      · cases rest with
        | nil => simp [Text.squeeze]
        | cons next rest =>
            simp only [Text.squeeze, Bool.false_eq_true, if_false]
            split
            · rcases opens with rfl | rfl <;> simp
            · exact single
      · rw [runs known (complete.squeeze known false), runs known complete, run]
  | @name name rest inside admitted _ induction =>
      have insideShort : ∀ character ∈ Text.squeeze false name, character ≠ backtick := by
        intro character member
        rcases Text.mem_squeeze member with rfl | known
        · decide
        · exact inside character known
      have complete := (unescaped _ (short name admitted)).complete insideShort
      have known : isQuote backtick = true := by decide
      rcases induction false with ⟨lexical, run⟩
      rw [quoted known]
      refine ⟨.name insideShort (short name admitted) lexical, fun depth => ?_⟩
      rw [runs known complete, runs known ((unescaped _ admitted).complete inside), run]
  | block comments | line comments => cases comments

end Sql

end SchemaSeed
