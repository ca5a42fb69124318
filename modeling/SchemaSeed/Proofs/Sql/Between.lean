import SchemaSeed.Proofs.Sql.Halves

/-! Closed text between two others.  A scan comes out of it as it went in, so whatever it is,
it belongs to one piece of the block at most, and the rest of that piece and all other pieces
stay the same.  Groups that do not hold it stay the same altogether. -/

namespace SchemaSeed

namespace Sql

variable {front behind : Text}

theorem Closed.unbroken_at {part : Text} (closed : Closed part) (depth : Nat) :
    Unbroken "," ⟨.plain, depth⟩ part := by
  cases depth with
  | zero => exact closed.unbroken
  | succ depth => exact (closed.steady _).unbroken (Nat.succ_ne_zero depth) _

/-- A group that is left within the front does not reach what stands behind. -/
theorem inside_of_outside {rest : Text} (outside : (Scan.run ⟨.plain, 1⟩ rest).depth = 0) :
    inside ⟨.plain, 1⟩ rest ≠ rest := by
  intro held
  rw [show 1 = 0 + 1 from rfl, run_of_inside held] at outside
  exact absurd outside (Nat.succ_ne_zero _)

/-- What stands in the first parentheses does not depend on closed text outside of them. -/
theorem content?_between (outside : Scan.start.run front = Scan.start) (behind : Text)
    {part : Text} (closed : Closed part) :
    content? (front ++ (part ++ behind)) = content? (front ++ behind) := by
  have start : Scan.start.depth = 0 := rfl
  have steady : Steady Scan.start part := closed.steady 0
  have returns : Scan.start.run part = Scan.start := closed.returns 0
  have run : Scan.start.run (front ++ (part ++ behind)) = Scan.start.run (front ++ behind) := by
    rw [Scan.run_append, Scan.run_append, Scan.run_append, outside, returns]
  rw [content?, content?, opened?_append start front, opened?_append start front, outside,
    steady.opened?_append start, returns, run]
  cases opens : opened? Scan.start front with
  | none => rfl
  | some rest =>
      have left : inside ⟨.plain, 1⟩ rest ≠ rest := by
        apply inside_of_outside
        rw [← (run_of_opened start opens).2, outside]
        rfl
      simp only [Option.map_some, Option.some_or, inside_append, if_neg left]

/-- The head of a block is its first candidate. -/
theorem tidied_unopened {character : Char} {tail : Text} (starts : front = character :: tail)
    (spelled : Character.spells 'c' character = true) :
    ∃ behind, ∀ pieces, tidied (unopened Scan.start front :: pieces) =
      (character :: behind) :: tidied pieces := by
  have solid := @Character.isBlank_eq_false_of_spells 'c' _ (by decide) spelled
  have outside : (Scan.start.step character).depth = 0 := by
    by_contra within
    have opening := (@step_opens Scan.start _ rfl within).1
    rw [opening] at spelled
    exact absurd spelled (by decide)
  rcases Text.collapse_cons_of_not_blank solid (unopened (Scan.start.step character) tail) with
    ⟨behind, collapsed⟩
  refine ⟨behind, fun pieces => ?_⟩
  rw [starts, unopened, if_pos outside, tidied, List.map_cons, collapsed]
  rfl

/-- The piece of a block that goes on where the text ends. -/
def openPiece (front : Text) : Text :=
  match opened? Scan.start front with
  | none => front
  | some rest => (partsFrom "," Scan.start rest).getLast?.getD []

/-- The one piece of a block that closed text between `front` and `behind` belongs to. -/
structure Between (front behind : Text) (earlier : List Text) (last first : Text)
    (others : List Text) : Prop where
  pieces : ∀ part, Closed part →
    pieces? (front ++ (part ++ behind)) = some (earlier ++ (last ++ (part ++ first)) :: others)
  goesOn : last = openPiece front
  starts : last <:+ front
  ends : first <+: behind
  lexical : ∀ admits, (∀ name, admits name → Unescaped name) →
    Lexical false admits front → Lexical false admits last
  run : Scan.start.run last = ⟨.plain, (Scan.start.run front).depth - 1⟩
  body : (Scan.start.run front).depth ≠ 0 → ∃ more, earlier = unopened Scan.start front :: more

/-- Without parentheses in the front, the text belongs to the head of the block. -/
theorem between_of_closed (closed : opened? Scan.start front = none)
    (plain : (Scan.start.run front).mode = .plain) (behind : Text) :
    (∀ part, Closed part → pieces? (front ++ (part ++ behind)) = none) ∨
      ∃ first others, Between front behind [] front first others := by
  have start : Scan.start.depth = 0 := rfl
  have outside : Scan.start.run front = Scan.start := by
    rcases run : Scan.start.run front with ⟨mode, depth⟩
    have depths := depth_of_closed start closed
    rw [run] at plain depths
    cases plain
    cases depths
    rfl
  have goesOn : front = openPiece front := by rw [openPiece, closed]
  have run : Scan.start.run front = ⟨.plain, (Scan.start.run front).depth - 1⟩ := by
    rw [outside]
    rfl
  have deep : (Scan.start.run front).depth ≠ 0 →
      ∃ more, [] = unopened Scan.start front :: more :=
    fun within => absurd (depth_of_closed start closed) within
  have heads {part : Text} (closedPart : Closed part) :
      unopened Scan.start (front ++ (part ++ behind)) =
        front ++ (part ++ unopened Scan.start behind) := by
    have steady : Steady Scan.start part := closedPart.steady 0
    have returns : Scan.start.run part = Scan.start := closedPart.returns 0
    rw [unopened_append_of_closed closed, outside, steady.unopened_append start, returns]
  cases content : content? (front ++ behind) with
  | none =>
      refine .inl fun part closedPart => ?_
      rw [pieces?, content?_between outside behind closedPart, content]
      rfl
  | some body =>
      cases body with
      | none =>
          refine .inr ⟨behind, [], fun part closedPart => ?_, goesOn, List.suffix_rfl,
            List.prefix_rfl, fun _ _ => id, run, deep⟩
          rw [pieces?, content?_between outside behind closedPart, content]
          rfl
      | some body =>
          refine .inr ⟨unopened Scan.start behind, partsFrom "," Scan.start body,
            fun part closedPart => ?_, goesOn, List.suffix_rfl, unopened_isPrefix _ _,
            fun _ _ => id, run, deep⟩
          rw [pieces?, content?_between outside behind closedPart, content]
          simp only [Option.map_some, heads closedPart]
          rfl

section Body

variable {rest : Text} (opens : opened? Scan.start front = some rest)

include opens

/-- A front whose first parentheses are still open stands at some depth of their content. -/
theorem exists_depth (plain : (Scan.start.run front).mode = .plain)
    (held : inside ⟨.plain, 1⟩ rest = rest) :
    ∃ depth, Scan.start.run front = ⟨.plain, depth + 1⟩ ∧
      Scan.run ⟨.plain, 1⟩ rest = ⟨.plain, depth + 1⟩ ∧ Scan.start.run rest = ⟨.plain, depth⟩ := by
  have run := (run_of_opened (show Scan.start.depth = 0 from rfl) opens).2
  have shifted := @run_of_inside .plain 0 rest held
  rcases within : Scan.start.run rest with ⟨mode, depth⟩
  rw [show Scan.run ⟨.plain, 0⟩ rest = ⟨mode, depth⟩ from within, ← run] at shifted
  rw [shifted] at plain
  cases plain
  exact ⟨depth, shifted, run ▸ shifted, rfl⟩

/-- There, the content goes on behind closed text as it would without it. -/
theorem content?_within (held : inside ⟨.plain, 1⟩ rest = rest) {depth : Nat}
    (deep : Scan.run ⟨.plain, 1⟩ rest = ⟨.plain, depth + 1⟩) (behind : Text) {part : Text}
    (closed : Closed part) :
    content? (front ++ (part ++ behind)) =
      match (Scan.run ⟨.plain, depth + 1⟩ (inside ⟨.plain, depth + 1⟩ behind)).mode.quote? with
      | some _ => none
      | none => some (some (rest ++ (part ++ inside ⟨.plain, depth + 1⟩ behind))) := by
  have group : inside ⟨.plain, 1⟩ (rest ++ (part ++ behind)) =
      rest ++ (part ++ inside ⟨.plain, depth + 1⟩ behind) := by
    rw [inside_append, if_pos held, deep,
      (closed.steady _).inside_append (Nat.succ_ne_zero depth), closed.returns]
  have runs : Scan.run ⟨.plain, 1⟩ (rest ++ (part ++ inside ⟨.plain, depth + 1⟩ behind)) =
      Scan.run ⟨.plain, depth + 1⟩ (inside ⟨.plain, depth + 1⟩ behind) := by
    rw [Scan.run_append, deep, Scan.run_append, closed.returns]
  rcases quoted : (Scan.run ⟨.plain, depth + 1⟩ (inside ⟨.plain, depth + 1⟩ behind)).mode.quote?
    with _ | quote <;>
    simp only [content?, opened?_append (show Scan.start.depth = 0 from rfl), opens,
      Option.map_some, Option.some_or, group, runs, quoted]

/-- Behind the first parentheses it does not matter what follows. -/
theorem pieces?_of_left (left : inside ⟨.plain, 1⟩ rest ≠ rest) (right : Text) :
    pieces? (front ++ right) = pieces? front := by
  rw [pieces?, pieces?, content?, content?, opened?_append (show Scan.start.depth = 0 from rfl),
    opens]
  simp only [Option.map_some, Option.some_or, inside_append, if_neg left,
    unopened_append_of_opened opens right]
  cases (Scan.run ⟨.plain, 1⟩ (inside ⟨.plain, 1⟩ rest)).mode.quote? <;> rfl

end Body

/-- The piece of a body that goes on at its end. -/
structure LastPiece (body : Text) (earlier : List Text) (last : Text) : Prop where
  parts : ∀ behind, partsFrom "," Scan.start (body ++ behind) =
    earlier ++ continued last (partsFrom "," (Scan.start.run body) behind)
  suffix : last <:+ body
  run : Scan.start.run last = Scan.start.run body
  lexical : ∀ admits, (∀ name, admits name → Unescaped name) →
    Lexical false admits body → Lexical false admits last

theorem exists_lastPiece (body : Text) : ∃ earlier last, LastPiece body earlier last := by
  rcases exists_parts Scan.start body with ⟨earlier, last, parts, place⟩
  rcases place with ⟨-, rfl⟩ | ⟨-, lead, shape, runLead⟩
  · exact ⟨earlier, last, parts, List.suffix_rfl, rfl, fun _ _ => id⟩
  · refine ⟨earlier, last, parts, ?_, ?_, fun admits unescaped lexical => ?_⟩
    · rw [shape]
      exact (List.suffix_cons _ _).trans (List.suffix_append _ _)
    · rw [shape, Scan.run_append, runLead, Scan.run_cons]
      rfl
    · have outside : (Scan.run ⟨.plain, 0⟩ lead).mode = .plain := by
        rw [show Scan.run ⟨.plain, 0⟩ lead = Scan.start from runLead]
        rfl
      exact @Lexical.behind _ _ _ _ ',' lexical unescaped (by decide) shape 0 outside

/-- In the body of a block, or behind it. -/
theorem between_of_opened {rest : Text} (opens : opened? Scan.start front = some rest)
    (plain : (Scan.start.run front).mode = .plain) (behind : Text) :
    (∃ pieces, ∀ part, Closed part → pieces? (front ++ (part ++ behind)) = pieces) ∨
      ∃ earlier last first others, Between front behind earlier last first others := by
  by_cases held : inside ⟨.plain, 1⟩ rest = rest
  · rcases exists_depth opens plain held with ⟨depth, deepFront, deep, within⟩
    have content {part : Text} := @content?_within front rest opens held depth deep behind part
    cases still : (Scan.run ⟨.plain, depth + 1⟩
        (inside ⟨.plain, depth + 1⟩ behind)).mode.quote? with
    | some quote =>
        refine .inl ⟨none, fun part closed => ?_⟩
        simp only [pieces?, content closed, still, Option.map_none]
    | none =>
        rcases exists_lastPiece rest with ⟨earlier, last, piece⟩
        rcases exists_partsFrom ⟨.plain, depth⟩ (inside ⟨.plain, depth + 1⟩ behind) with
          ⟨first, others, later, starts⟩
        have shape := unopened_append (show Scan.start.depth = 0 from rfl) opens
        refine .inr ⟨unopened Scan.start front :: earlier, last, first, others,
          fun part closed => ?_, ?_, ?_, starts.trans (inside_isPrefix _ _),
          fun admits unescaped lexical => ?_, ?_, fun _ => ⟨_, rfl⟩⟩
        · simp only [pieces?, content closed, still, Option.map_some,
            unopened_append_of_opened opens, piece.parts, within,
            (closed.unbroken_at depth).partsFrom_append, closed.returns, later]
          simp [continued]
        · have ended := piece.parts []
          rw [List.append_nil, partsFrom, continued, List.append_nil] at ended
          simp only [openPiece, opens, ended, List.getLast?_concat, Option.getD_some]
        · rw [shape]
          exact piece.suffix.trans ((List.suffix_cons _ _).trans (List.suffix_append _ _))
        · have outside := (run_of_opened (show Scan.start.depth = 0 from rfl) opens).1
          have body := @Lexical.behind _ _ _ _ '(' lexical unescaped (by decide) shape 0 outside
          exact piece.lexical admits unescaped body
        · rw [piece.run, within, deepFront]
          rfl
  · exact .inl ⟨pieces? front, fun part _ => pieces?_of_left opens held (part ++ behind)⟩

theorem exists_between (plain : (Scan.start.run front).mode = .plain) (behind : Text) :
    (∃ pieces, ∀ part, Closed part → pieces? (front ++ (part ++ behind)) = pieces) ∨
      ∃ earlier last first others, Between front behind earlier last first others := by
  cases opens : opened? Scan.start front with
  | some rest => exact between_of_opened opens plain behind
  | none =>
      rcases between_of_closed opens plain behind with refused | ⟨first, others, between⟩
      · exact .inl ⟨none, refused⟩
      · exact .inr ⟨[], front, first, others, between⟩

end Sql

end SchemaSeed
