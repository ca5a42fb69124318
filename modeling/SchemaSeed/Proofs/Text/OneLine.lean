import SchemaSeed.Proofs.Lists
import SchemaSeed.Proofs.Sql.Names
import SchemaSeed.Text.Quoted
import SchemaSeed.Text.Terminal

/-! Text on one line.  Quoted text holds no control characters, neither line ends nor the
start of a control sequence, whatever is quoted; a terminal shows it as it is. -/

namespace SchemaSeed

namespace Text

/-- No control characters, so that the text stands on one line. -/
def OneLine (text : Text) : Prop :=
  ∀ character ∈ text, 32 ≤ character.toNat

instance (text : Text) : Decidable (OneLine text) :=
  decidableForallMem text fun character => 32 ≤ character.toNat

theorem OneLine.append {left right : Text} (first : OneLine left) (second : OneLine right) :
    OneLine (left ++ right) := by
  intro character member
  rcases List.mem_append.mp member with inLeft | inRight
  · exact first character inLeft
  · exact second character inRight

end Text

namespace Character

theorem le_toNat_digitChar {digit : Nat} (small : digit < 16) :
    32 ≤ (Nat.digitChar digit).toNat := by
  have all : ∀ digit ∈ List.range 16, 32 ≤ (Nat.digitChar digit).toNat := by decide
  exact all digit (List.mem_range.mpr small)

theorem oneLine_toDigits (number : Nat) : Text.OneLine (Nat.toDigits 16 number) := by
  induction number using Nat.strongRecOn with
  | ind number induction =>
      by_cases small : number < 16
      · rw [Nat.toDigits_of_lt_base small]
        exact fun character member => List.mem_singleton.mp member ▸ le_toNat_digitChar small
      · have large : 16 ≤ number := Nat.le_of_not_lt small
        rw [Nat.toDigits_of_base_le (by decide) large]
        refine (induction (number / 16) (by omega)).append ?_
        intro character member
        rw [List.mem_singleton.mp member]
        exact le_toNat_digitChar (Nat.mod_lt number (by decide))

theorem oneLine_hexadecimal (digits number : Nat) : Text.OneLine (hexadecimal digits number) := by
  refine Text.OneLine.append ?_ (oneLine_toDigits number)
  intro character member
  rw [List.eq_of_mem_replicate member]
  decide

theorem le_toNat_of_isPrintable {character : Char} (printable : isPrintable character = true) :
    32 ≤ character.toNat := by
  simp only [isPrintable] at printable
  split at printable
  · simp only [Bool.and_eq_true, decide_eq_true_eq] at printable
    exact UInt32.le_iff_toNat_le.mp printable.1
  · rename_i wide
    have beyond : 128 ≤ character.toNat := UInt32.le_iff_toNat_le.mp (UInt32.not_lt.mp wide)
    omega

theorem oneLine_escaped {quote : Char} (shown : 32 ≤ quote.toNat) (character : Char) :
    Text.OneLine (escaped quote character) := by
  have behind (sign : Char) (signShown : 32 ≤ sign.toNat) (digits : Nat) :
      Text.OneLine ('\\' :: sign :: hexadecimal digits character.toNat) :=
    List.forall_mem_cons.mpr ⟨by decide,
      List.forall_mem_cons.mpr ⟨signShown, oneLine_hexadecimal digits _⟩⟩
  simp only [escaped]
  split
  · rename_i escapes
    refine List.forall_mem_cons.mpr ⟨by decide, List.forall_mem_cons.mpr ⟨?_, by simp⟩⟩
    rcases escapes with rfl | rfl
    · exact shown
    · decide
  · split
    · decide
    · split
      · decide
      · split
        · decide
        · split
          · rename_i printable
            exact List.forall_mem_cons.mpr ⟨le_toNat_of_isPrintable printable, by simp⟩
          · split
            · exact behind 'x' (by decide) 2
            · split
              · exact behind 'u' (by decide) 4
              · exact behind 'U' (by decide) 8

end Character

namespace Text

theorem oneLine_quoted (text : Text) : OneLine text.quoted := by
  have shown : 32 ≤ text.quoteFor.toNat := by
    rw [quoteFor]
    split <;> decide
  refine OneLine.append ?_ fun character member => List.mem_singleton.mp member ▸ shown
  refine List.forall_mem_cons.mpr ⟨shown, fun character member => ?_⟩
  rcases List.mem_flatMap.mp member with ⟨source, -, among⟩
  exact Character.oneLine_escaped shown source character among

end Text

namespace Sql

theorem oneLine_of_isName {name : Text} (proper : IsName name) : Text.OneLine name := by
  have foreign : ∀ code ∈ List.range 32, isNameCharacter (Char.ofNat code) = false := by decide
  intro character member
  by_contra control
  have unknown := foreign character.toNat (List.mem_range.mpr (Nat.lt_of_not_le control))
  rw [Char.ofNat_toNat, proper.2 character member] at unknown
  cases unknown

end Sql

namespace Terminal

theorem plainFrom_of_oneLine {text : Text} (oneLine : text.OneLine) : plainFrom 0 text = text := by
  induction text with
  | nil => rfl
  | cons character text induction =>
      rw [Text.OneLine, List.forall_mem_cons] at oneLine
      have different : character ≠ escape := by
        rintro rfl
        exact absurd oneLine.1 (by decide)
      have none : afterSequence? (character :: text) = none := by
        simp only [afterSequence?]
        split
        · rename_i shape
          cases shape
          rw [if_neg different]
        · rfl
      simp only [plainFrom, sequenceLength, none, induction oneLine.2]

theorem plain_of_oneLine {text : Text} (oneLine : text.OneLine) : plain text = text :=
  plainFrom_of_oneLine oneLine

end Terminal

end SchemaSeed
