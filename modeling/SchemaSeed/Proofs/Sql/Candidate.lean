import SchemaSeed.Proofs.Sql.Parts
import SchemaSeed.Proofs.Text.Words
import SchemaSeed.Sql.Candidate

/-! What is sure of the candidates of any block.  Only an open quote can keep a block
from being cut into candidates, and a block that starts with neither a blank nor a
parenthesis has a head that starts with the same character. -/

namespace SchemaSeed

namespace Sql

/-- A group that is found opens where the search stands or later, unless it was open
already. -/
theorem le_opening_of_searchFrom {scan : Scan} {opening : Option Nat} {position bound : Nat}
    {text : Text} {group : Group} (later : bound ≤ position)
    (opened : ∀ place, opening = some place → bound ≤ place)
    (found : searchFrom scan opening position text = .found group) :
    bound ≤ group.opening := by
  induction text generalizing scan opening position with
  | nil =>
      simp only [searchFrom, searchEnd] at found
      split at found
      · cases found
      · cases found
        exact opened _ rfl
      · cases found
  | cons character text induction =>
      have laterNext : bound ≤ position + 1 := Nat.le_succ_of_le later
      cases opening with
      | none =>
          refine induction laterNext ?_ found
          intro place equal
          split at equal
          · cases equal
          · cases equal
            exact later
      | some place =>
          simp only [searchFrom] at found
          split at found
          · cases found
            exact opened place rfl
          · exact induction laterNext opened found

/-! An open quote is one of the characters that quote. -/

theorem quote?_step {scan : Scan} {character quote : Char}
    (quoted : (scan.step character).mode.quote? = some quote) :
    scan.mode.quote? = some quote ∨ isQuote quote = true := by
  rcases scan with ⟨mode, depth⟩
  cases mode with
  | plain =>
      simp only [Scan.step] at quoted
      split at quoted
      · cases quoted
      · split at quoted
        · cases quoted
        · simp only [Mode.step] at quoted
          split at quoted
          · rename_i opens
            cases quoted
            exact .inr opens
          · cases quoted
  | quoted open_ escaped =>
      refine .inl ?_
      cases escaped with
      | true => exact quoted
      | false =>
          simp only [Scan.step, Mode.step] at quoted
          split at quoted
          · exact quoted
          · split at quoted
            · cases quoted
            · exact quoted

theorem isQuote_of_run {scan : Scan} {text : Text} {quote : Char}
    (known : ∀ open_, scan.mode.quote? = some open_ → isQuote open_ = true)
    (quoted : (scan.run text).mode.quote? = some quote) : isQuote quote = true := by
  induction text generalizing scan with
  | nil => exact known quote quoted
  | cons character text induction =>
      exact induction (fun open_ opened => (quote?_step opened).elim (known open_) id) quoted

theorem isQuote_of_searchFrom {scan : Scan} {opening : Option Nat} {position : Nat}
    {text : Text} {quote : Char}
    (known : ∀ open_, scan.mode.quote? = some open_ → isQuote open_ = true)
    (sought : searchFrom scan opening position text = .unterminated quote) :
    isQuote quote = true := by
  induction text generalizing scan opening position with
  | nil =>
      simp only [searchFrom, searchEnd] at sought
      split at sought
      · rename_i quoted
        cases sought
        exact known _ quoted
      · cases sought
      · cases sought
  | cons character text induction =>
      have knownNext : ∀ open_, (scan.step character).mode.quote? = some open_ →
          isQuote open_ = true := fun open_ opened => (quote?_step opened).elim (known open_) id
      simp only [searchFrom] at sought
      split at sought
      · exact induction knownNext sought
      · split at sought
        · cases sought
        · exact induction knownNext sought

theorem fault_of_findGroup {text : Text} {start : Nat} {fault : Fault}
    (failed : findGroup text start = .error fault) :
    ∃ quote, isQuote quote = true ∧ fault = .unterminatedQuote quote text := by
  simp only [findGroup] at failed
  split at failed
  · cases failed
  · cases failed
  · rename_i quote sought
    cases failed
    exact ⟨quote, isQuote_of_searchFrom (by simp [Scan.start, Mode.quote?]) sought, rfl⟩

theorem fault_of_splitTop {separator text : Text} {fault : Fault}
    (failed : splitTop separator text = .error fault) :
    ∃ quote, isQuote quote = true ∧ fault = .unterminatedQuote quote text := by
  rw [splitTop_eq] at failed
  split at failed
  · rename_i quote quoted
    cases failed
    exact ⟨quote, isQuote_of_run (by simp [Scan.start, Mode.quote?]) quoted, rfl⟩
  · cases failed

theorem fault_of_candidates {block : Text} {fault : Fault}
    (failed : candidates block = .error fault) :
    ∃ quote text, isQuote quote = true ∧ fault = .unterminatedQuote quote text := by
  simp only [candidates] at failed
  split at failed
  · rename_i sought
    cases failed
    rcases fault_of_findGroup sought with ⟨quote, known, equal⟩
    exact ⟨quote, block, known, equal⟩
  · cases failed
  · split at failed
    · rename_i split
      cases failed
      rcases fault_of_splitTop split with ⟨quote, known, equal⟩
      exact ⟨quote, _, known, equal⟩
    · cases failed

/-- A candidate is the collapsed text of a part of its block. -/
theorem exists_part_of_candidate {block candidate : Text} {found : List Text}
    (read : candidates block = .ok found) (member : candidate ∈ found) :
    ∃ part : Text, part <:+: block ∧ candidate = part.collapse := by
  have tidy : ∀ pieces : List Text, (∀ piece ∈ pieces, piece <:+: block) →
      candidate ∈ tidied pieces → ∃ part : Text, part <:+: block ∧ candidate = part.collapse := by
    intro pieces parts among
    rcases List.mem_map.mp (List.mem_filter.mp among).1 with ⟨piece, known, rfl⟩
    exact ⟨piece, parts piece known, rfl⟩
  simp only [candidates] at read
  split at read
  · cases read
  · cases read
    exact tidy [block] (by simp) member
  · rename_i group _
    split at read
    · cases read
    · rename_i pieces split
      cases read
      refine tidy _ (List.forall_mem_cons.mpr ⟨(List.take_prefix _ _).isInfix, ?_⟩) member
      intro piece known
      rw [(splitTop_eq_ok split).2] at known
      have slice : block.slice (group.opening + 1) group.closing <:+: block :=
        (List.take_prefix _ _).isInfix.trans (List.drop_suffix _ _).isInfix
      exact (isInfix_of_mem_partsFrom known).trans slice

theorem tidied_append (pieces others : List Text) :
    tidied (pieces ++ others) = tidied pieces ++ tidied others := by
  rw [tidied, List.map_append, List.filter_append]
  rfl

theorem tidied_cons {piece : Text} (nonempty : piece.collapse ≠ []) (pieces : List Text) :
    tidied (piece :: pieces) = piece.collapse :: tidied pieces := by
  rw [tidied, List.map_cons, List.filter_cons_of_pos (by simpa using nonempty)]
  rfl

theorem tidied_cons_of_not_blank {character : Char}
    (solid : Character.isBlank character = false) (text : Text) (pieces : List Text) :
    ∃ tail, tidied ((character :: text) :: pieces) = (character :: tail) :: tidied pieces := by
  rcases Text.collapse_cons_of_not_blank solid text with ⟨tail, collapsed⟩
  exact ⟨tail, by simp [tidied, collapsed]⟩

/-- The head of a block starts as the block does. -/
theorem candidates_of_solid_head {character : Char} {text : Text} {found : List Text}
    (solid : Character.isBlank character = false) (unopened : character ≠ '(')
    (read : candidates (character :: text) = .ok found) :
    ∃ tail body, found = (character :: tail) :: body := by
  simp only [candidates] at read
  split at read
  · cases read
  · cases read
    rcases tidied_cons_of_not_blank solid text [] with ⟨tail, tidy⟩
    exact ⟨tail, _, tidy⟩
  · rename_i group sought
    split at read
    · cases read
    · rename_i pieces split
      cases read
      have opening : 1 ≤ group.opening := by
        simp only [findGroup, List.drop_zero] at sought
        split at sought
        · rename_i other searched
          cases sought
          -- The first character does not open a group, so the search goes on behind it.
          have closed : (Scan.start.step character).depth = 0 := by
            simp only [Scan.step, Scan.start, unopened, if_false]
            split <;> rfl
          simp only [searchFrom, closed, if_true] at searched
          exact le_opening_of_searchFrom (Nat.le_refl 1) (fun place equal => by cases equal)
            searched
        · cases sought
        · cases sought
      rcases Nat.exists_eq_add_of_le' opening with ⟨count, stop⟩
      rcases tidied_cons_of_not_blank solid (text.take count) pieces with ⟨tail, tidy⟩
      refine ⟨tail, tidied pieces, ?_⟩
      rw [stop, List.take_succ_cons]
      exact tidy

/-- A body whose items are nested falls apart at the commas between them. -/
theorem candidates_of_items {lead first : Text} {rest : List Text} (after : Text)
    (passed : ∀ text, searchFrom Scan.start none 0 (lead ++ text) =
      searchFrom Scan.start none lead.length text)
    (nested : ∀ item ∈ first :: rest, Nested false item) :
    candidates (lead ++ ('(' :: Text.join "," (first :: rest) ++ ')' :: after)) =
      .ok (tidied (lead :: first :: rest)) := by
  have body : Nested true (Text.join "," (first :: rest)) := nested_join nested
  have group : findGroup (lead ++ ('(' :: Text.join "," (first :: rest) ++ ')' :: after)) 0 =
      .ok (some ⟨lead.length, lead.length + 1 + (Text.join "," (first :: rest)).length⟩) := by
    rw [findGroup, List.drop_zero, passed, searchFrom_group body]
  rw [candidates, group]
  simp only [slice_group, splitTop_join nested, List.take_left]

end Sql

end SchemaSeed
