import SchemaSeed.Column.Classify
import SchemaSeed.Proofs.Sql.Parts

/-! What a string literal stands for.  A server reads it character by character: a backslash
gives the next one a meaning, and a doubled quote stands for one.  Content that is put in
the other kind of quotes keeps its value exactly if it holds neither quote without a
backslash. -/

namespace SchemaSeed

namespace Sql

/-- What a character stands for behind a backslash.  The wildcards of patterns keep the
backslash, and a letter without a meaning stands for itself. -/
def escapedValue : Char → Text
  | '0' => [Char.ofNat 0]
  | 'b' => [Char.ofNat 8]
  | 't' => ['\t']
  | 'n' => ['\n']
  | 'r' => ['\r']
  | 'Z' => [Char.ofNat 26]
  | '%' => ['\\', '%']
  | '_' => ['\\', '_']
  | character => [character]

/-- The value of what follows an opening quote, if the quote that closes it is the last
character. -/
def contentValue? (quote : Char) : Text → Option Text
  | [] => none
  | '\\' :: [] => none
  | '\\' :: character :: rest => (contentValue? quote rest).map (escapedValue character ++ ·)
  | character :: [] => if character = quote then some [] else none
  | character :: next :: rest =>
      if character ≠ quote then (contentValue? quote (next :: rest)).map (character :: ·)
      else if next = quote then (contentValue? quote rest).map (quote :: ·)
      else none

/-- The value of a text that is one string literal. -/
def value? : Text → Option Text
  | [] => none
  | quote :: rest => if Column.isStringQuote quote then contentValue? quote rest else none

example : value? "'it''s \\\"here\\\"'" = some "it's \"here\"".toList := by decide

example : value? "\"a\"b\"" = none := by decide

/-! ## Content between quotes -/

/-- What content stands for between quotes of the one kind. -/
inductive Denotes (quote : Char) : (content value : Text) → Prop
  | nil : Denotes quote [] []
  | plain {character : Char} {rest value : Text} (different : character ≠ quote)
      (noEscape : character ≠ '\\') (later : Denotes quote rest value) :
      Denotes quote (character :: rest) (character :: value)
  | escaped {character : Char} {rest value : Text} (later : Denotes quote rest value) :
      Denotes quote ('\\' :: character :: rest) (escapedValue character ++ value)
  | doubled {rest value : Text} (later : Denotes quote rest value) :
      Denotes quote (quote :: quote :: rest) (quote :: value)

theorem ne_backslash_of_isStringQuote {quote : Char} (known : Column.isStringQuote quote = true) :
    quote ≠ '\\' := by
  rintro rfl
  cases known

theorem contentValue?_cons {quote character : Char} {text : Text} (different : character ≠ quote)
    (noEscape : character ≠ '\\') (nonempty : text ≠ []) :
    contentValue? quote (character :: text) = (contentValue? quote text).map (character :: ·) := by
  rcases List.exists_cons_of_ne_nil nonempty with ⟨next, rest, rfl⟩
  simp [contentValue?, different]

section Kinds

variable {quote : Char} (known : Column.isStringQuote quote = true)

include known

theorem Denotes.contentValue? {content value : Text} (denotes : Denotes quote content value) :
    contentValue? quote (content ++ [quote]) = some value := by
  have noEscape := ne_backslash_of_isStringQuote known
  induction denotes with
  | nil => simp [Sql.contentValue?]
  | plain different noEscape _ induction =>
      rw [List.cons_append, contentValue?_cons different noEscape (by simp), induction]
      rfl
  | escaped _ induction =>
      simp only [List.cons_append, Sql.contentValue?, induction, Option.map_some]
  | doubled _ induction => simp [Sql.contentValue?, induction]

theorem denotes_of_contentValue? {content value : Text}
    (read : Sql.contentValue? quote (content ++ [quote]) = some value) :
    Denotes quote content value := by
  have noEscape := ne_backslash_of_isStringQuote known
  cases content with
  | nil =>
      have empty : value = [] := by simpa [Sql.contentValue?, eq_comm] using read
      rw [empty]
      exact .nil
  | cons character rest =>
      by_cases escape : character = '\\'
      · subst escape
        cases rest with
        | nil => simp [Sql.contentValue?] at read
        | cons next rest =>
            simp only [List.cons_append, Sql.contentValue?] at read
            rcases Option.map_eq_some_iff.mp read with ⟨later, readLater, rfl⟩
            exact .escaped (denotes_of_contentValue? readLater)
      · by_cases same : character = quote
        · rw [same] at read ⊢
          cases rest with
          | nil => simp [Sql.contentValue?] at read
          | cons next rest =>
              by_cases twice : next = quote
              · rw [twice] at read ⊢
                simp only [List.cons_append, Sql.contentValue?, not_true_eq_false, if_false,
                  if_true, ne_eq] at read
                rcases Option.map_eq_some_iff.mp read with ⟨later, readLater, rfl⟩
                exact .doubled (denotes_of_contentValue? readLater)
              · simp [Sql.contentValue?, twice] at read
        · rw [List.cons_append, contentValue?_cons same escape (by simp)] at read
          rcases Option.map_eq_some_iff.mp read with ⟨later, readLater, rfl⟩
          exact .plain same escape (denotes_of_contentValue? readLater)

theorem value?_quoted {content value : Text} :
    value? (quote :: content ++ [quote]) = some value ↔ Denotes quote content value := by
  simp only [List.cons_append, value?, known, if_true]
  exact ⟨denotes_of_contentValue? known, fun denotes => denotes.contentValue? known⟩

theorem escapedValue_starts {character : Char} {rest value : Text}
    (starts : escapedValue character ++ rest = quote :: value) :
    escapedValue character = [quote] := by
  have foreign {other : Char} {front : Text} (different : Column.isStringQuote other = false)
      (same : other :: front ++ rest = quote :: value) : False := by
    cases same
    rw [known] at different
    cases different
  unfold escapedValue at starts ⊢
  split at starts
  case h_9 =>
    cases starts
    rfl
  all_goals exact (foreign (by decide) starts).elim

end Kinds

/-! ## The other kind of quotes -/

section Requoted

variable {first second : Char} (different : first ≠ second)
  (known : Column.isStringQuote first = true) (secondKnown : Column.isStringQuote second = true)

include different known secondKnown

/-- Once a doubled quote has stood for two characters in the other quotes, the values stay
apart: a further quote is needed to make up for it, and it is behind by two again. -/
theorem Denotes.ne_behind {content value other : Text} (denotes : Denotes first content value)
    (otherwise : Denotes second content other) (behind : Nat) :
    value ≠ first :: (List.replicate behind first ++ other) := by
  have noEscape := ne_backslash_of_isStringQuote known
  have move (behind : Nat) (text : Text) : List.replicate behind first ++ first :: text =
      first :: (List.replicate behind first ++ text) := by
    rw [← List.cons_append, ← List.replicate_succ, List.replicate_succ', List.append_assoc]
    rfl
  induction denotes generalizing other behind with
  | nil => simp
  | plain noQuote =>
      rintro ⟨⟩
      exact noQuote rfl
  | @escaped character rest value _ induction =>
      cases otherwise with
      | plain _ escape => exact absurd rfl escape
      | doubled => exact absurd rfl (ne_backslash_of_isStringQuote secondKnown)
      | @escaped _ _ other later =>
          intro same
          rw [escapedValue_starts known same] at same
          have same : value = List.replicate behind first ++ first :: other :=
            (List.cons.inj same).2
          exact induction later behind (same.trans (move behind other))
  | @doubled rest value _ induction =>
      cases otherwise with
      | escaped => exact absurd rfl noEscape
      | doubled => exact absurd rfl different
      | plain _ _ later =>
          cases later with
          | escaped => exact absurd rfl noEscape
          | doubled => exact absurd rfl different
          | @plain _ _ other _ _ later =>
              intro same
              have same : value = List.replicate behind first ++ first :: first :: other :=
                (List.cons.inj same).2
              refine induction later (behind + 1) ?_
              rw [same, move, move, List.replicate_succ, List.cons_append]

theorem Denotes.enclosed {content value : Text} (denotes : Denotes first content value)
    (otherwise : Denotes second content value) :
    Enclosed first content ∧ Enclosed second content := by
  have firstNoEscape := ne_backslash_of_isStringQuote known
  induction denotes with
  | nil => exact ⟨.nil, .nil⟩
  | @plain character rest value noFirst noEscape later induction =>
      generalize shape : character :: value = whole at otherwise
      cases otherwise with
      | escaped => exact absurd rfl noEscape
      | plain noSecond _ otherwise =>
          cases shape
          rcases induction otherwise with ⟨inFirst, inSecond⟩
          exact ⟨.plain noFirst noEscape inFirst, .plain noSecond noEscape inSecond⟩
      | doubled otherwise =>
          cases shape
          cases later with
          | escaped => exact absurd rfl noEscape
          | doubled => exact absurd rfl noFirst
          | plain _ _ later =>
              exact absurd rfl (otherwise.ne_behind different.symm secondKnown known later 0)
  | @escaped character rest value _ induction =>
      generalize shape : escapedValue character ++ value = whole at otherwise
      cases otherwise with
      | plain _ noEscape => exact absurd rfl noEscape
      | doubled => exact absurd rfl (ne_backslash_of_isStringQuote secondKnown)
      | escaped otherwise =>
          cases List.append_cancel_left shape
          rcases induction otherwise with ⟨inFirst, inSecond⟩
          exact ⟨.escaped inFirst, .escaped inSecond⟩
  | @doubled rest value denotes _ =>
      generalize shape : first :: value = whole at otherwise
      cases otherwise with
      | escaped => exact absurd rfl firstNoEscape
      | doubled => exact absurd rfl different
      | plain _ _ otherwise =>
          cases shape
          cases otherwise with
          | escaped => exact absurd rfl firstNoEscape
          | doubled => exact absurd rfl different
          | plain _ _ otherwise =>
              exact absurd rfl (denotes.ne_behind different known secondKnown otherwise 0)

omit different known secondKnown in
theorem exists_denotes_both {content : Text} (inFirst : Enclosed first content)
    (inSecond : Enclosed second content) :
    ∃ value, Denotes first content value ∧ Denotes second content value := by
  induction inFirst with
  | nil => exact ⟨[], .nil, .nil⟩
  | @plain character rest noFirst noEscape _ induction =>
      cases inSecond with
      | escaped => exact absurd rfl noEscape
      | plain noSecond _ later =>
          rcases induction later with ⟨value, first, second⟩
          exact ⟨character :: value, .plain noFirst noEscape first, .plain noSecond noEscape second⟩
  | @escaped character rest _ induction =>
      cases inSecond with
      | plain _ noEscape => exact absurd rfl noEscape
      | escaped later =>
          rcases induction later with ⟨value, first, second⟩
          exact ⟨escapedValue character ++ value, .escaped first, .escaped second⟩

/-- Content means the same in either kind of quotes exactly if it holds none of them without
a backslash. -/
theorem value?_requoted_iff {content : Text} :
    (∃ value, value? (first :: content ++ [first]) = some value ∧
        value? (second :: content ++ [second]) = some value) ↔
      Enclosed first content ∧ Enclosed second content := by
  simp only [value?_quoted known, value?_quoted secondKnown]
  constructor
  · rintro ⟨value, inFirst, inSecond⟩
    exact inFirst.enclosed different known secondKnown inSecond
  · rintro ⟨inFirst, inSecond⟩
    exact exists_denotes_both inFirst inSecond

end Requoted

end Sql

end SchemaSeed
