import SchemaSeed.Proofs.Sql.Recognition

/-! Three readers of quoted text.  What they have in common is where literals lie; the removal
of comments and the scan agree on that unless one of them takes a literal for part of a name. -/

namespace SchemaSeed

namespace Sql

/-! ## Literals alone -/

/-- Neither of two readers finds a literal where the other one finds a name. -/
def Unmixed (first second : List Mark) : Prop :=
  ∀ pair ∈ first.zip second, pair ≠ (.opening, .name) ∧ pair ≠ (.name, .opening)

instance (first second : List Mark) : Decidable (Unmixed first second) :=
  inferInstanceAs (Decidable (∀ pair ∈ _, _))

theorem unmixed_cons {mark other : Mark} {first second : List Mark} :
    Unmixed (mark :: first) (other :: second) ↔
      ((mark, other) ≠ (.opening, .name) ∧ (mark, other) ≠ (.name, .opening)) ∧
        Unmixed first second := by
  rw [Unmixed, List.zip_cons_cons, List.forall_mem_cons, ← Unmixed]

theorem Unmixed.of_append {front first second : List Mark}
    (unmixed : Unmixed (front ++ first) (front ++ second)) : Unmixed first second := by
  induction front with
  | nil => exact unmixed
  | cons mark front induction => exact induction (unmixed_cons.mp unmixed).2

theorem unmixed_of_literals_eq {first second : List Mark}
    (same : literals first = literals second) : Unmixed first second := by
  induction first generalizing second with
  | nil => simp [Unmixed]
  | cons mark first induction =>
      cases second with
      | nil => simp [Unmixed]
      | cons other second =>
          have split := List.cons_eq_cons.mp same
          refine unmixed_cons.mpr ⟨⟨?_, ?_⟩, induction split.2⟩
          · rintro ⟨⟩
            cases split.1
          · rintro ⟨⟩
            cases split.1

theorem literals_cons {mark other : Mark} {first second : List Mark}
    (alike : mark.isLiteral = other.isLiteral) (same : literals first = literals second) :
    literals (mark :: first) = literals (other :: second) := by
  simp only [literals, List.map_cons] at same ⊢
  rw [alike, same]

/-- Outside of literals. -/
def Mode.BetweenLiterals (mode : Mode) : Prop :=
  ∀ quote, mode.quote? = some quote → quote = backtick

/-- A scan between literals, and the marks that another reader sets from there on. -/
structure Faces (closed : Option Char) (mode : Mode) (text : Text) (marks : List Mark) : Prop where
  between : mode.BetweenLiterals
  apart : ∀ quote, closed = some quote → quote = backtick
  outside : mode.run text = .plain
  uncommented : Mark.comment ∉ marks
  unmixed : Unmixed marks (scannedFrom closed mode text)

theorem Mode.step_name (escaped : Bool) (character : Char) :
    ((Mode.quoted backtick escaped).step character).BetweenLiterals := by
  cases escaped with
  | true =>
      rintro quote ⟨⟩
      rfl
  | false =>
      rw [step]
      split
      · rintro quote ⟨⟩
        rfl
      · split
        · rintro quote ⟨⟩
        · rintro quote ⟨⟩
          rfl

theorem Mode.closed_name (escaped : Bool) (next : Mode) (quote : Char)
    (found : (Mode.quoted backtick escaped).closed next = some quote) : quote = backtick := by
  cases next with
  | plain => exact (Option.some.inj found).symm
  | quoted => cases found

namespace Faces

variable {closed : Option Char} {mode : Mode}

theorem scannedFrom_eq {text : Text} {marks : List Mark} (faces : Faces closed .plain text marks) :
    scannedFrom closed .plain text = scanned text := by
  cases closed with
  | none => rfl
  | some quote => exact scannedFrom_behind (.inl (faces.apart quote rfl))

/-- Unless a literal opens, the next character is part of a name, or it is no quote; and the
readers still face one another behind it. -/
theorem step {character : Char} {text : Text} {mark : Mark} {marks : List Mark}
    (faces : Faces closed mode (character :: text) (mark :: marks))
    (noLiteral : mode = .plain → ¬ (character = '\'' ∨ character = '"')) :
    Faces (mode.closed (mode.step character)) (mode.step character) text marks ∧
      (mode.between closed (mode.step character) = .name ∨
        isQuote character = false ∧ mode.between closed (mode.step character) = .code) := by
  have uncommented : Mark.comment ∉ marks :=
    fun member => faces.uncommented (List.mem_cons_of_mem _ member)
  have unmixed := (unmixed_cons.mp faces.unmixed).2
  have outside : (mode.step character).run text = .plain := faces.outside
  cases mode with
  | plain =>
      cases quoted : isQuote character with
      | false =>
          rw [Mode.step_unquoted quoted] at unmixed outside ⊢
          exact ⟨⟨faces.between, by rintro _ ⟨⟩, outside, uncommented, unmixed⟩,
            .inr ⟨rfl, rfl⟩⟩
      | true =>
          have name : character = backtick := by
            have noLiteral := noLiteral rfl
            simp_all [isQuote]
          subst name
          rw [Mode.step_open (by decide)] at unmixed outside ⊢
          exact ⟨⟨by rintro _ ⟨⟩; rfl, by rintro _ ⟨⟩, outside, uncommented, unmixed⟩,
            .inl (by simp [Mode.between, Mode.mark])⟩
  | quoted quote escaped =>
      have name := faces.between quote rfl
      subst name
      exact ⟨⟨Mode.step_name escaped character, Mode.closed_name escaped _, outside, uncommented,
        unmixed⟩, .inl rfl⟩

/-- Outside of quotes, a literal is the same one to both. -/
theorem literal {character : Char} {text : Text} {previous : Option Char}
    (faces : Faces closed .plain (character :: text)
      (readFrom previous 0 .code (character :: text)))
    (opens : character = '\'' ∨ character = '"') :
    ∃ front later last, later.length ≤ text.length ∧
      readFrom previous 0 .code (character :: text) = front ++ readFrom last 0 .code later ∧
      scannedFrom closed .plain (character :: text) = front ++ scannedFrom none .plain later ∧
      Faces none .plain later (readFrom last 0 .code later) := by
  have quoted := isQuote_of_opens opens
  have outside := faces.outside
  rw [Mode.run_cons, Mode.step_open quoted] at outside
  rcases exists_complete quoted outside with ⟨content, later, rfl, complete, single, ends⟩
  rcases readFrom_literal opens complete single previous with ⟨last, read⟩
  rw [← List.cons_append] at faces ⊢
  have scan := faces.scannedFrom_eq.trans (scanned_literal opens complete single)
  have uncommented := faces.uncommented
  have unmixed := faces.unmixed
  rw [read] at uncommented
  rw [read, scan] at unmixed
  exact ⟨_, later, last, by simp; omega, read, scan, faces.between, by rintro _ ⟨⟩, ends,
    fun member => uncommented (List.mem_append_right _ member), unmixed.of_append⟩

end Faces

/-- Between literals, the removal of comments and the scan find the same ones unless one of
them takes a literal for part of a name. -/
theorem literals_readFrom_eq {closed : Option Char} {mode : Mode} {text : Text}
    {previous : Option Char} {remaining : Nat}
    (faces : Faces closed mode text (readFrom previous remaining .name text)) :
    literals (readFrom previous remaining .name text) =
      literals (scannedFrom closed mode text) := by
  match text, remaining with
  | [], _ => rfl
  | character :: rest, remaining + 1 =>
      have noLiteral : mode = .plain → ¬ (character = '\'' ∨ character = '"') := by
        -- To the removal of comments it would be part of a name.
        rintro rfl opens
        have unmixed := faces.unmixed
        rw [faces.scannedFrom_eq, scanned, scannedFrom,
          Mode.step_open (isQuote_of_opens opens)] at unmixed
        refine absurd ?_ (unmixed_cons.mp unmixed).1.2
        simp [Mode.between, ne_backtick_of_opens opens]
      rcases faces.step noLiteral with ⟨later, marked | ⟨-, marked⟩⟩ <;>
        exact literals_cons (by simp [marked, Mark.isLiteral]) (literals_readFrom_eq later)
  | character :: rest, 0 =>
      rw [readFrom_finished] at faces ⊢
      by_cases literal : mode = .plain ∧ (character = '\'' ∨ character = '"')
      · rcases literal with ⟨rfl, opens⟩
        rcases faces.literal opens with ⟨front, later, last, shorter, read, scan, facesLater⟩
        rw [← readFrom_finished _ .name] at facesLater
        have same := literals_readFrom_eq facesLater
        rw [readFrom_finished] at same
        rw [read, scan]
        simp only [literals, List.map_append] at same ⊢
        rw [same]
      · have noLiteral : mode = .plain → ¬ (character = '\'' ∨ character = '"') :=
          fun plain opens => literal ⟨plain, opens⟩
        rcases readFrom_cases fun head => faces.uncommented (List.mem_of_head? head) with
          ⟨opens, length, read⟩ | ⟨-, length, read⟩ | read
        · rw [read] at faces
          rcases faces.step noLiteral with ⟨-, marked | ⟨unquoted, -⟩⟩
          · have unmixed := faces.unmixed
            rw [scannedFrom, marked] at unmixed
            exact absurd rfl (unmixed_cons.mp unmixed).1.1
          · rw [literalLength?_of_head unquoted] at opens
            cases opens
        · rw [read] at faces ⊢
          rcases faces.step noLiteral with ⟨later, marked | ⟨-, marked⟩⟩ <;>
            exact literals_cons (by simp [marked, Mark.isLiteral]) (literals_readFrom_eq later)
        · rw [read] at faces ⊢
          rw [← readFrom_finished _ .name] at faces ⊢
          rcases faces.step noLiteral with ⟨later, marked | ⟨-, marked⟩⟩ <;>
            exact literals_cons (by simp [marked, Mark.isLiteral]) (literals_readFrom_eq later)
termination_by text.length

theorem Legible.literals_read_eq_iff {text : Text} (legible : Legible text)
    (code : Mark.comment ∉ read text) :
    literals (read text) = literals (scanned text) ↔ Unmixed (read text) (scanned text) := by
  refine ⟨unmixed_of_literals_eq, fun unmixed => ?_⟩
  have faces : Faces none .plain text (readFrom none 0 .code text) :=
    ⟨by rintro _ ⟨⟩, by rintro _ ⟨⟩, legible.run, code, unmixed⟩
  rw [← readFrom_finished _ .name] at faces
  have same := literals_readFrom_eq faces
  rwa [readFrom_finished] at same

/-! ## All three -/

theorem rewritten_nameless (marks : List Mark) (text : Text) :
    rewritten Mark.emptied (marks.map Mark.nameless) text = rewritten Mark.emptied marks text := by
  have same : ∀ mark : Mark, mark.nameless.emptied = mark.emptied := by
    intro mark
    cases mark <;> rfl
  simp [rewritten, List.zipWith_map_left, same]

/-- On text whose quotes are all closed, the literals that are masked lie where the scan has its
literals exactly if none starts in a name, and masking then empties these and nothing else.  If
there are no comments, their removal reads the same literals and the same names exactly if no
backtick is taken along in a name, and the same literals exactly if neither reader takes one
for part of a name. -/
theorem quoted_text_is_read_alike {separator text : Text} {parts : List Text}
    (split : splitTop separator text = .ok parts) :
    (literals (masked text) = literals (scanned text) ↔ SilentNames text) ∧
      (SilentNames text → mask text = rewritten Mark.emptied (scanned text) text) ∧
      (stripComments text = text → (read text = scanned text ↔ WholeNames text) ∧
        (literals (read text) = literals (scanned text) ↔
          Unmixed (read text) (scanned text))) := by
  have legible := legible_of_splitTop split
  refine ⟨⟨legible.silentNames, fun silent => ?_⟩, fun silent => ?_, fun uncommented => ?_⟩
  · rw [legible.masked_eq silent, literals, literals, List.map_map]
    congr 1
    funext mark
    cases mark <;> rfl
  · rw [mask_eq_rewritten, legible.masked_eq silent, rewritten_nameless]
  · have code := comment_not_mem_read uncommented
    exact ⟨⟨legible.wholeNames, fun whole => legible.readFrom_eq whole code⟩,
      legible.literals_read_eq_iff code⟩

set_option maxRecDepth 4000 in
/-- A doubled quote, an escaped one, and a name that holds neither. -/
theorem quotes_in_literals_are_read_alike :
    let text : Text := "`a-b` ENUM('it''s', \"b\\\"c\") DEFAULT '(,'"
    splitTop "," text = .ok [text] ∧ SilentNames text ∧ WholeNames text ∧
      stripComments text = text ∧ literals (masked text) = literals (scanned text) ∧
      mask text = rewritten Mark.emptied (scanned text) text ∧ read text = scanned text ∧
      mask text = "`a-b` ENUM('', '') DEFAULT ''".toList := by
  intro text
  have split : splitTop "," text = .ok [text] := by rfl
  have silent : SilentNames text := by decide
  have whole : WholeNames text := by decide
  have uncommented : stripComments text = text := by decide
  rcases quoted_text_is_read_alike split with ⟨masks, empties, reads⟩
  exact ⟨split, silent, whole, uncommented, masks.mpr silent, empties silent,
    (reads uncommented).1.mpr whole, by decide⟩

/-- A quote in one name and a quote in another are a literal to masking, which empties code
between them; and where a backslash stands before a backtick, the removal of comments takes the
name for closed. -/
theorem quote_in_name_is_masked :
    let text : Text := "`a'b`, `c'd`"
    let escaped : Text := "`a\\`'b`, `c'd`"
    splitTop "," text = .ok ["`a'b`".toList, " `c'd`".toList] ∧
      literals (scanned text) = List.replicate text.length false ∧
      literals (masked text) ≠ literals (scanned text) ∧ mask text = "`a''d`".toList ∧
      splitTop "," escaped = .ok ["`a\\`'b`".toList, " `c'd`".toList] ∧
      stripComments escaped = escaped ∧
      literals (read escaped) ≠ literals (scanned escaped) := by
  intro text escaped
  refine ⟨by rfl, by decide, by decide, by decide, by rfl, by decide, by decide⟩

end Sql

end SchemaSeed
