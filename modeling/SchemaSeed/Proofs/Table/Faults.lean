import SchemaSeed.Proofs.Table.Schema
import SchemaSeed.Proofs.Text.OneLine
import SchemaSeed.Proofs.Text.Squeezed

/-! What can go wrong with the reading of a block: it ends inside quotes, it has no name, no
key or nothing at all, or the length of a column has more digits than are converted.  The
last of these is not told apart from faults of the program itself. -/

namespace SchemaSeed

theorem Character.isBlank_of_isDecimalDigit {character : Char}
    (digit : isDecimalDigit character = true) : isBlank character = false := by
  have foreign : ∀ code ∈ blankCodes, isDecimalDigit (Char.ofNat code) = false := by decide
  cases blank : isBlank character with
  | false => rfl
  | true =>
      have other := foreign character.toNat (toNat_mem_blankCodes blank)
      rw [Char.ofNat_toNat, digit] at other
      cases other

/-- A numeral in a collapsed text stands in the text itself. -/
theorem Decimal.HoldsLongNumeral.of_collapse {text : Text} {digits : Nat}
    (holds : HoldsLongNumeral text.collapse digits) : HoldsLongNumeral text digits := by
  rcases holds with ⟨numeral, within, length, long, known⟩
  have solid : ∀ digit ∈ numeral, Character.isBlank digit = false :=
    fun digit among => Character.isBlank_of_isDecimalDigit (known digit among)
  exact ⟨numeral, (Text.squeezed_collapse text).1.isInfix solid within, length, long, known⟩

/-- A numeral in a candidate stands in the block. -/
theorem Sql.holdsLongNumeral_of_candidate {block candidate : Text} {found : List Text}
    {digits : Nat} (read : candidates block = .ok found) (member : candidate ∈ found)
    (holds : Decimal.HoldsLongNumeral candidate digits) :
    Decimal.HoldsLongNumeral block digits := by
  rcases exists_part_of_candidate read member with ⟨part, within, rfl⟩
  exact holds.of_collapse.mono within

namespace Table

/-- The faults with which the reading of a block can end. -/
inductive Refusal (block : Text) : Fault → Prop
  | openQuote {quote : Char} (text : Text) (known : Sql.isQuote quote = true) :
      Refusal block (.unterminatedQuote quote text)
  | nameless (head : Text) : Refusal block (.missingTableName head)
  | empty : Refusal block .emptyBlock
  | keyless {name : Text} (proper : Sql.IsName name) : Refusal block (.missingPrimaryKey name)
  | longNumeral {digits : Nat} (holds : Decimal.HoldsLongNumeral block digits) :
      Refusal block (.numeralTooLong digits)

theorem refusal_of_parse {block : Text} {fault : Fault} (failed : parse block = .error fault) :
    Refusal block fault := by
  rw [parse, Reading.ofBlock] at failed
  cases found : Sql.candidates block with
  | error refused =>
      rw [found] at failed
      cases failed
      rcases Sql.fault_of_candidates found with ⟨quote, text, known, rfl⟩
      exact .openQuote text known
  | ok candidates =>
      rw [found] at failed
      cases candidates with
      | nil =>
          cases failed
          exact .empty
      | cons head body =>
          simp only [Reading.ofCandidates] at failed
          cases named : Sql.firstName? head with
          | none =>
              rw [named] at failed
              cases failed
              exact .nameless head
          | some name =>
              cases chosen : Reading.primaryKeyFrom none body with
              | none =>
                  simp only [named, chosen] at failed
                  cases failed
                  exact .keyless (Sql.firstName?_eq_some named)
              | some primaryKey =>
                  cases unread : Reading.columnsOf primaryKey (head :: body) with
                  | ok columns =>
                      simp only [named, chosen, unread] at failed
                      cases failed
                  | error refused =>
                      simp only [named, chosen, unread] at failed
                      cases failed
                      rcases Reading.fault_of_columnsOf unread with
                        ⟨quote, text, known, rfl⟩ | ⟨candidate, member, digits, holds, rfl⟩
                      · exact .openQuote text known
                      · exact .longNumeral (Sql.holdsLongNumeral_of_candidate found member holds)

/-- What is said about an unreadable table is said on one line. -/
theorem Refusal.oneLine {block : Text} {fault : Fault} (refusal : Refusal block fault)
    (unreadable : fault.isUnreadableTable = true) : Text.OneLine fault.message := by
  cases refusal with
  | @openQuote quote text known =>
      have shown : 32 ≤ quote.toNat := by
        simp only [Sql.isQuote, Bool.or_eq_true, beq_iff_eq] at known
        rcases known with (rfl | rfl) | rfl <;> decide
      refine Text.OneLine.append (.append (.append ?_ ?_) ?_) (Text.oneLine_quoted _)
      · decide
      · exact fun character member => List.mem_singleton.mp member ▸ shown
      · decide
  | nameless head => exact Text.OneLine.append (by decide) (Text.oneLine_quoted _)
  | empty => exact (by decide : Text.OneLine "Empty table block.")
  | keyless proper =>
      exact Text.OneLine.append (.append (by decide) (Sql.oneLine_of_isName proper)) (by decide)
  | longNumeral => cases unreadable

/-- A table is unreadable, or the only other thing that can keep it from being read is a
numeral in it that is not converted. -/
theorem Refusal.unreadable_or_longNumeral {block : Text} {fault : Fault}
    (refusal : Refusal block fault) :
    fault.isUnreadableTable = true ∨
      ∃ digits, fault = .numeralTooLong digits ∧ Decimal.HoldsLongNumeral block digits := by
  cases refusal with
  | openQuote => exact .inl rfl
  | nameless => exact .inl rfl
  | empty => exact .inl rfl
  | keyless => exact .inl rfl
  | longNumeral holds => exact .inr ⟨_, rfl, holds⟩

end Table

end SchemaSeed
