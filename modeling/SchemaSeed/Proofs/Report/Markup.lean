import SchemaSeed.Proofs.Text.Words
import SchemaSeed.Report.Markup

/-! What markup makes of a text.  Text that holds no tag, no escaped bracket, no name of a
pictograph and no control shows as it is.  Whatever else becomes of a text, reading it brings
no blanks about. -/

namespace SchemaSeed

namespace Text

/-- Words hold no blanks. -/
theorem solid_of_mem_wordsOnto {words : List Text} {current text : Text}
    (solidWords : ∀ word ∈ words, ∀ character ∈ word, Character.isBlank character = false)
    (solid : ∀ character ∈ current, Character.isBlank character = false) :
    ∀ word ∈ wordsOnto words current text, ∀ character ∈ word,
      Character.isBlank character = false := by
  have ended {words : List Text} {current : Text}
      (solidWords : ∀ word ∈ words, ∀ character ∈ word, Character.isBlank character = false)
      (solid : ∀ character ∈ current, Character.isBlank character = false) :
      ∀ word ∈ if current.isEmpty then words else current.reverse :: words,
        ∀ character ∈ word, Character.isBlank character = false := by
    split
    · exact solidWords
    · exact List.forall_mem_cons.mpr
        ⟨fun character member => solid character (List.mem_reverse.mp member), solidWords⟩
  induction text generalizing words current with
  | nil =>
      intro word member
      exact ended solidWords solid word (List.mem_reverse.mp member)
  | cons character text induction =>
      cases blank : Character.isBlank character with
      | true =>
          rw [wordsOnto_blank_cons blank]
          exact induction (ended solidWords solid) (by simp)
      | false =>
          rw [wordsOnto_solid_cons blank]
          exact induction solidWords (List.forall_mem_cons.mpr ⟨blank, solid⟩)

theorem solid_of_mem_words {text word : Text} (member : word ∈ text.words) :
    ∀ character ∈ word, Character.isBlank character = false :=
  solid_of_mem_wordsOnto (by simp) (by simp) word member

end Text

namespace Emoji

/-- What is left to be written of a name that may have begun. -/
def begun : Option Text → Text
  | some code => ':' :: code.reverse
  | none => []

/-- What stands between two colons names no pictograph. -/
def Nameless (text : Text) : Prop :=
  ∀ before code after, text = before ++ ':' :: (code ++ ':' :: after) →
    (∀ character ∈ code, character ≠ ':' ∧ Character.isBlank character = false) →
    written code = ':' :: code ++ [':']

theorem Nameless.of_append {front back : Text} (nameless : Nameless (front ++ back)) :
    Nameless back := by
  rintro before code after rfl
  exact nameless (front ++ before) code after (List.append_assoc _ _ _).symm

theorem nameless_of_no_colon {text : Text} (absent : ':' ∉ text) : Nameless text := by
  rintro before code after rfl
  exact absurd (List.mem_append_right before List.mem_cons_self) absent

theorem replaceFrom_of_nameless {code : Option Text} {text : Text}
    (solid : ∀ read, code = some read → ∀ character ∈ read,
      character ≠ ':' ∧ Character.isBlank character = false)
    (nameless : Nameless (begun code ++ text)) :
    replaceFrom code text = begun code ++ text := by
  induction text generalizing code with
  | nil => cases code <;> simp [replaceFrom, begun]
  | cons character text induction =>
      have later : replaceFrom none text = text :=
        induction (by rintro _ ⟨⟩)
          (@Nameless.of_append (begun code ++ [character]) text (by simpa using nameless))
      cases code with
      | none =>
          by_cases colon : character = ':'
          · subst colon
            have opened : replaceFrom (some []) text = begun (some []) ++ text := by
              refine induction ?_ nameless
              rintro _ ⟨⟩
              simp
            simp only [replaceFrom, if_true]
            exact opened
          · simp only [replaceFrom, colon, if_false, later]
            rfl
      | some read =>
          have known := solid read rfl
          by_cases colon : character = ':'
          · subst colon
            have unnamed := nameless [] read.reverse text (by simp [begun])
              fun other member => known other (List.mem_reverse.mp member)
            simp only [replaceFrom, if_true, unnamed, later]
            simp [begun]
          · cases blank : Character.isBlank character with
            | true =>
                simp only [replaceFrom, colon, blank, if_false, if_true, later]
                rfl
            | false =>
                have longer : replaceFrom (some (character :: read)) text =
                    begun (some (character :: read)) ++ text := by
                  refine induction ?_ (by simpa [begun] using nameless)
                  rintro _ ⟨⟩
                  exact List.forall_mem_cons.mpr ⟨⟨colon, blank⟩, known⟩
                simp only [replaceFrom, colon, blank, if_false, Bool.false_eq_true, longer]
                simp [begun]

theorem replace_of_nameless {text : Text} (nameless : Nameless text) : replace text = text :=
  replaceFrom_of_nameless (by rintro _ ⟨⟩) nameless

/-! ## Blanks -/

theorem solid_of_mem_pairs {words : List Text}
    (solid : ∀ word ∈ words, ∀ character ∈ word, Character.isBlank character = false) :
    ∀ pair ∈ pairs words, ∀ character ∈ pair.2, Character.isBlank character = false := by
  fun_induction pairs words with
  | case1 name pictograph rest induction =>
      rw [List.forall_mem_cons, List.forall_mem_cons] at solid
      exact List.forall_mem_cons.mpr ⟨solid.2.1, induction solid.2.2⟩
  | case2 => simp

theorem solid_of_named? {name pictograph : Text} (named : named? name = some pictograph) :
    ∀ character ∈ pictograph, Character.isBlank character = false := by
  rw [named?, Option.map_eq_some_iff] at named
  rcases named with ⟨pair, found, rfl⟩
  have listed : pair ∈ names := List.mem_of_find?_eq_some found
  rw [names, List.mem_flatMap] at listed
  rcases listed with ⟨line, listed⟩
  exact solid_of_mem_pairs (fun word => Text.solid_of_mem_words) pair listed.2

theorem solid_of_selector (code : Text) :
    ∀ character ∈ (split code).2, Character.isBlank character = false := by
  have known : ∀ form ∈ forms, ∀ character ∈ form.2, Character.isBlank character = false := by
    decide
  rw [split]
  cases found : forms.findSome? fun form =>
      (before? form.1 code).map fun name => (name, form.2) with
  | none => simp
  | some pair =>
      rcases List.exists_of_findSome?_eq_some found with ⟨form, member, shape⟩
      rcases Option.map_eq_some_iff.mp shape with ⟨name, -, rfl⟩
      exact known form member

theorem written_of_named {code pictograph : Text}
    (named : named? (split code).1.lower = some pictograph) :
    written code = pictograph ++ (split code).2 := by
  unfold written
  simp only [named]

theorem written_of_unnamed {code : Text} (unnamed : named? (split code).1.lower = none) :
    written code = ':' :: code ++ [':'] := by
  unfold written
  simp only [unnamed]

theorem mem_of_written {code : Text} {character : Char}
    (blank : Character.isBlank character = true) (member : character ∈ written code) :
    character ∈ code := by
  have foreign {solid : Bool} (same : Character.isBlank character = solid) : solid = true :=
    same ▸ blank
  cases named : named? (split code).1.lower with
  | some pictograph =>
      rw [written_of_named named] at member
      rcases List.mem_append.mp member with inside | inside
      · exact absurd (foreign (solid_of_named? named character inside)) (by decide)
      · exact absurd (foreign (solid_of_selector code character inside)) (by decide)
  | none =>
      rw [written_of_unnamed named] at member
      have different : character ≠ ':' := by
        rintro rfl
        exact absurd blank (by decide)
      simpa [different] using member

theorem mem_of_replaceFrom {code : Option Text} {text : Text} {character : Char}
    (blank : Character.isBlank character = true) (member : character ∈ replaceFrom code text) :
    character ∈ begun code ++ text := by
  induction text generalizing code with
  | nil =>
      cases code with
      | none => simp [replaceFrom] at member
      | some read => simpa [replaceFrom, begun] using member
  | cons first text induction =>
      cases code with
      | none =>
          simp only [replaceFrom] at member
          split at member
          · rename_i colon
            have inside := induction member
            rwa [begun, List.reverse_nil, List.singleton_append, ← colon] at inside
          · rcases List.mem_cons.mp member with rfl | later
            · exact List.mem_cons_self
            · exact List.mem_cons_of_mem first (induction later)
      | some read =>
          simp only [replaceFrom] at member
          split at member
          · rcases List.mem_append.mp member with inside | later
            · have among := mem_of_written blank inside
              simp [begun, List.mem_reverse.mp among]
            · have among := induction later
              simp_all [begun]
          · split at member
            · rcases List.mem_append.mp member with inside | later
              · exact List.mem_append_left _ inside
              · rcases List.mem_cons.mp later with rfl | later
                · simp
                · have among := induction later
                  simp_all [begun]
            · have among := induction member
              simpa [begun, or_assoc, or_comm, or_left_comm] using among

end Emoji

namespace Markup

/-! ## Plain text -/

/-- No opening bracket starts a tag or is escaped, nothing names a pictograph, and nothing is a
control. -/
structure IsPlain (text : Text) : Prop where
  tagless : ∀ inside, '[' :: inside <:+ text → tagContent? inside = none
  unescaped : ¬ ['\\', '['] <:+: text
  nameless : Emoji.Nameless text
  uncontrolled : ∀ character ∈ text, isControl character = false

theorem IsPlain.of_no_bracket {text : Text} (absent : '[' ∉ text)
    (nameless : Emoji.Nameless text)
    (uncontrolled : ∀ character ∈ text, isControl character = false) : IsPlain text where
  tagless inside behind := absurd (behind.subset List.mem_cons_self) absent
  unescaped inside := absurd (inside.subset (by simp)) absent
  nameless := nameless
  uncontrolled := uncontrolled

theorem escapedTag?_of_tagless {text : Text}
    (tagless : ∀ inside, '[' :: inside <:+ text → tagContent? inside = none) :
    escapedTag? text = none := by
  have behind := List.dropWhile_suffix (· == '\\') (l := text)
  rw [escapedTag?]
  split
  · rename_i inside opened
    rw [opened] at behind
    rw [tagless inside behind, Option.map_none]
  · rfl

theorem piecesOnto_of_tagless {fuel : Nat} {text : Text} (enough : text.length ≤ fuel)
    (tagless : ∀ inside, '[' :: inside <:+ text → tagContent? inside = none)
    (pieces : List Piece) (plain : Text) (position : Nat) :
    piecesOnto pieces plain position fuel text = flush (text.reverse ++ plain) pieces := by
  induction text generalizing fuel plain position with
  | nil => cases fuel <;> rfl
  | cons character rest induction =>
      have later : ∀ inside, '[' :: inside <:+ rest → tagContent? inside = none :=
        fun inside behind => tagless inside (behind.trans (List.suffix_cons _ _))
      cases fuel with
      | zero => exact absurd enough (Nat.not_succ_le_zero _)
      | succ fuel =>
          simp only [piecesOnto, escapedTag?_of_tagless tagless]
          rw [induction (Nat.le_of_succ_le_succ enough) later]
          simp

theorem unescapeBrackets_of_unescaped {text : Text} (unescaped : ¬ ['\\', '['] <:+: text) :
    unescapeBrackets text = text := by
  induction text with
  | nil => rfl
  | cons character rest induction =>
      have later := induction fun inside => unescaped (List.infix_cons inside)
      unfold unescapeBrackets
      split
      · rename_i inside shape
        rw [shape] at unescaped
        exact absurd (List.prefix_append ['\\', '['] inside).isInfix unescaped
      · rename_i shape
        cases shape
        rw [later]
      · rename_i shape
        cases shape

theorem visible_of_plain {text : Text} (plain : IsPlain text) : visible text = text := by
  rw [visible, Emoji.replace_of_nameless plain.nameless, List.filter_eq_self]
  intro character member
  rw [plain.uncontrolled character member]
  rfl

theorem read_of_plain {text : Text} (plain : IsPlain text) : read text = .ok ⟨text, []⟩ := by
  rw [read]
  split
  · rename_i bracket
    have nonempty : text.reverse ≠ [] := by
      rintro empty
      rw [List.reverse_eq_nil_iff.mp empty] at bracket
      cases bracket
    have shown : pieces text = [.plain text] := by
      rw [pieces, piecesOnto_of_tagless (Nat.le_refl _) plain.tagless, List.append_nil, flush,
        if_neg (by simpa using nonempty), List.reverse_reverse]
      rfl
    rw [shown, Progress.readAll, Progress.read,
      unescapeBrackets_of_unescaped plain.unescaped, visible_of_plain plain]
    simp [Progress.readAll, Progress.marked, Except.map]
  · rw [visible_of_plain plain]

/-! ## Blanks -/

/-- What a piece adds to the text that shows. -/
def Piece.shown : Piece → Text
  | .plain text => visible (unescapeBrackets text)
  | .tag _ _ => []

theorem Progress.text_close {progress next : Progress} {tag : OpenTag} {opened : List OpenTag}
    (closed : progress.close tag opened = .ok next) : next.text = progress.text := by
  rw [close] at closed
  cases checked : tag.check with
  | error fault => simp [checked, Except.map] at closed
  | ok =>
      simp only [checked, Except.map, Except.ok.injEq] at closed
      rw [← closed]

theorem Progress.text_read {progress next : Progress} {piece : Piece}
    (read : progress.read piece = .ok next) : next.text = progress.text ++ piece.shown := by
  cases piece with
  | plain text =>
      cases read
      rfl
  | tag position tag =>
      rw [Piece.shown, List.append_nil]
      simp only [Progress.read] at read
      split at read
      · split at read
        · split at read
          · exact text_close read
          · cases read
        · split at read
          · cases read
          · split at read
            · exact text_close read
            · cases read
      · cases named : Style.normalize tag.name with
        | error fault => simp [named, Except.map] at read
        | ok name =>
            simp only [named, Except.map, Except.ok.injEq] at read
            rw [← read]

theorem Progress.text_readAll {progress last : Progress} {pieces : List Piece}
    (read : progress.readAll pieces = .ok last) :
    last.text = progress.text ++ pieces.flatMap Piece.shown := by
  induction pieces generalizing progress with
  | nil =>
      cases read
      simp
  | cons piece rest induction =>
      simp only [readAll] at read
      split at read
      · cases read
      · rename_i next first
        rw [induction read, text_read first, List.flatMap_cons, List.append_assoc]

theorem tagContent?_subset {text content after : Text}
    (found : tagContent? text = some (content, after)) : content ⊆ text ∧ after ⊆ text := by
  cases text with
  | nil => cases found
  | cons first rest =>
      simp only [tagContent?] at found
      split at found
      · split at found
        · rename_i closing
          cases found
          have inside := List.takeWhile_subset
            (fun character => character != ']' && character != '[') (l := rest)
          have behind := List.dropWhile_subset
            (fun character => character != ']' && character != '[') (l := rest)
          rw [closing] at behind
          exact ⟨List.cons_subset_cons _ inside,
            fun character member =>
              List.mem_cons_of_mem _ (behind (List.mem_cons_of_mem _ member))⟩
        · cases found
      · cases found

theorem escapedTag?_subset {text content after : Text} {escapes : Nat}
    (found : escapedTag? text = some (escapes, content, after)) :
    content ⊆ text ∧ after ⊆ text := by
  have behind := List.dropWhile_subset (· == '\\') (l := text)
  rw [escapedTag?] at found
  split at found
  · rename_i inside opened
    rw [opened] at behind
    rcases Option.map_eq_some_iff.mp found with ⟨⟨_, _⟩, read, same⟩
    cases same
    have subset {part : Text} (part_subset : part ⊆ inside) : part ⊆ text :=
      fun character member => behind (List.mem_cons_of_mem _ (part_subset member))
    rcases tagContent?_subset read with ⟨content, after⟩
    exact ⟨subset content, subset after⟩
  · cases found

section Blank

variable {character : Char} (blank : Character.isBlank character = true)

include blank

theorem mem_of_visible {text : Text} (member : character ∈ visible text) : character ∈ text := by
  rw [visible, List.mem_filter] at member
  exact Emoji.mem_of_replaceFrom blank member.1

theorem ne_of_blank {other : Char} (solid : Character.isBlank other = false) :
    character ≠ other := by
  rintro rfl
  rw [blank] at solid
  cases solid

end Blank

theorem unescapeBrackets_subset (text : Text) : unescapeBrackets text ⊆ text := by
  fun_induction unescapeBrackets text with
  | case1 rest induction =>
      exact List.subset_cons_of_subset _ (List.cons_subset_cons _ induction)
  | case2 character rest _ induction => exact List.cons_subset_cons _ induction
  | case3 => exact List.nil_subset _

/-- Whether the character stands in the plain text of one of the pieces. -/
def StandsIn (character : Char) (pieces : List Piece) : Prop :=
  ∃ text, .plain text ∈ pieces ∧ character ∈ text

theorem standsIn_flush {character : Char} {plain : Text} {pieces : List Piece}
    (stands : StandsIn character (flush plain pieces)) :
    character ∈ plain ∨ StandsIn character pieces := by
  rcases stands with ⟨text, among, member⟩
  rw [flush] at among
  split at among
  · exact .inr ⟨text, among, member⟩
  · rcases List.mem_cons.mp among with same | among
    · cases same
      exact .inl (List.mem_reverse.mp member)
    · exact .inr ⟨text, among, member⟩

theorem standsIn_piecesOnto {character : Char} (blank : Character.isBlank character = true)
    {pieces : List Piece} {plain text : Text} {position fuel : Nat}
    (stands : StandsIn character (piecesOnto pieces plain position fuel text)) :
    character ∈ text ∨ character ∈ plain ∨ StandsIn character pieces := by
  fun_induction piecesOnto pieces plain position fuel text with
  | case1 | case2 => exact .inr (standsIn_flush stands)
  | case3 pieces plain position fuel first rest _ induction =>
      rcases induction stands with later | here | before
      · exact .inl (List.mem_cons_of_mem first later)
      · rcases List.mem_cons.mp here with rfl | here
        · exact .inl List.mem_cons_self
        · exact .inr (.inl here)
      · exact .inr (.inr before)
  | case4 pieces plain position fuel first rest escapes content after tag before doubled found
      induction =>
      rcases escapedTag?_subset tag with ⟨inContent, inAfter⟩
      rcases induction stands with later | none | ⟨part, among, member⟩
      · exact .inl (inAfter later)
      · cases none
      · rcases List.mem_cons.mp among with same | among
        · -- The tag is plain text if a backslash is left over.
          refine .inl (inContent ?_)
          have opening := ne_of_blank blank (by decide : Character.isBlank '[' = false)
          have closing := ne_of_blank blank (by decide : Character.isBlank ']' = false)
          simp only [found] at same
          split at same
          · cases same
            simpa [opening, closing] using member
          · cases same
        · have backslash := ne_of_blank blank (by decide : Character.isBlank '\\' = false)
          have standing : StandsIn character before := by
            simp only [doubled] at among
            split at among
            · rcases List.mem_cons.mp among with same | among
              · cases same
                exact absurd (List.eq_of_mem_replicate member) backslash
              · exact ⟨part, among, member⟩
            · exact ⟨part, among, member⟩
          exact .inr (standsIn_flush standing)

/-- Reading brings no blanks about. -/
theorem mem_of_read {text : Text} {marked : Marked} {character : Char}
    (read : Markup.read text = .ok marked) (blank : Character.isBlank character = true)
    (member : character ∈ marked.text) : character ∈ text := by
  rw [Markup.read] at read
  split at read
  · cases finished : Progress.readAll {} (pieces text) with
    | error fault => simp [finished, Except.map] at read
    | ok last =>
        simp only [finished, Except.map, Except.ok.injEq] at read
        rw [← read, Progress.marked, Progress.text_readAll finished, List.nil_append,
          List.mem_flatMap] at member
        rcases member with ⟨piece, among, inside⟩
        cases piece with
        | tag => cases inside
        | plain part =>
            have stands : StandsIn character (piecesOnto [] [] 0 text.length text) :=
              ⟨part, List.mem_reverse.mp among,
                unescapeBrackets_subset part (mem_of_visible blank inside)⟩
            rcases standsIn_piecesOnto blank stands with here | none | ⟨_, none, -⟩
            · exact here
            · cases none
            · cases none
  · cases read
    exact mem_of_visible blank member

end Markup

end SchemaSeed
