import SchemaSeed.Datum.Json
import SchemaSeed.Proofs.Decimal.Natural
import SchemaSeed.Proofs.Lists

/-! Strings read back from JSON.  Whatever a text holds, its string is plain ASCII without control
characters, and a reader that undoes the escapes, two halves of one character included, finds
the text again and stops right behind the closing quote. -/

namespace SchemaSeed

namespace Json

/-! ## The reader -/

def hexDigit? (character : Char) : Option Nat :=
  if '0' ≤ character ∧ character ≤ '9' then some (character.toNat - 48)
  else if 'a' ≤ character ∧ character ≤ 'f' then some (character.toNat - 87)
  else if 'A' ≤ character ∧ character ≤ 'F' then some (character.toNat - 55)
  else none

/-- The number of four hexadecimal digits, and the text behind them. -/
def unit? : Text → Option (Nat × Text)
  | first :: second :: third :: fourth :: rest =>
      match hexDigit? first, hexDigit? second, hexDigit? third, hexDigit? fourth with
      | some a, some b, some c, some d => some (4096 * a + 256 * b + 16 * c + d, rest)
      | _, _, _, _ => none
  | _ => none

def isHighHalf (code : Nat) : Bool :=
  0xD800 ≤ code && code < 0xDC00

def isLowHalf (code : Nat) : Bool :=
  0xDC00 ≤ code && code < 0xE000

/-- The second half of a character, behind the first one. -/
def lowHalf? (text : Text) : Option (Nat × Text) :=
  match text with
  | '\\' :: 'u' :: digits =>
      (unit? digits).filter fun (code, _) => isLowHalf code
  | _ => none

/-- What a letter behind a backslash stands for. -/
def escapes : List (Char × Char) := [
  ('"', '"'), ('\\', '\\'), ('/', '/'), ('b', Char.ofNat 8), ('f', Char.ofNat 12), ('n', '\n'),
  ('r', '\r'), ('t', '\t')]

/-- The next character of a string, and the text behind it.  Controls have to be escaped, and a
half of a character does not stand alone. -/
def character? : Text → Option (Char × Text)
  | '\\' :: 'u' :: digits =>
      match unit? digits with
      | none => none
      | some (code, rest) =>
          if isHighHalf code then
            (lowHalf? rest).map fun (low, behind) =>
              (Char.ofNat (0x10000 + 0x400 * (code - 0xD800) + (low - 0xDC00)), behind)
          else if isLowHalf code then none
          else some (Char.ofNat code, rest)
  | '\\' :: letter :: rest => (escapes.find? (·.1 == letter)).map fun pair => (pair.2, rest)
  | character :: rest =>
      if character.toNat < 32 ∨ character = '"' ∨ character = '\\' then none
      else some (character, rest)
  | [] => none

/-- The characters up to the closing quote, and the text behind it. -/
def characters? : (fuel : Nat) → Text → Option (Text × Text)
  | _, '"' :: rest => some ([], rest)
  | 0, _ => none
  | fuel + 1, text =>
      (character? text).bind fun (character, behind) =>
        (characters? fuel behind).map fun (more, rest) => (character :: more, rest)

/-! ## Escapes -/

theorem hexDigit?_digitChar {digit : Nat} (small : digit < 16) :
    hexDigit? digit.digitChar = some digit := by
  have all : ∀ digit < 16, hexDigit? digit.digitChar = some digit := by decide
  exact all digit small

/-- The last digit comes off the end, zeros in front or not. -/
theorem hexadecimal_succ {count : Nat} (positive : 0 < count) (code : Nat) :
    Character.hexadecimal (count + 1) code =
      Character.hexadecimal count (code / 16) ++ [(code % 16).digitChar] := by
  simp only [Character.hexadecimal]
  rcases Nat.lt_or_ge code 16 with small | large
  · have zero : code / 16 = 0 := Nat.div_eq_of_lt small
    have zeros : List.replicate (count - 1) '0' ++ ['0'] = List.replicate count '0' := by
      rw [← List.replicate_succ', Nat.sub_add_cancel positive]
    rw [Nat.toDigits_of_lt_base small, zero, Nat.toDigits_of_lt_base (by decide),
      Nat.mod_eq_of_lt small]
    exact congrArg (· ++ [code.digitChar]) zeros.symm
  · rw [Nat.toDigits_of_base_le (by decide) large, List.length_append, List.length_singleton,
      Nat.add_sub_add_right, List.append_assoc]

theorem hexadecimal_four {code : Nat} (small : code < 0x10000) :
    Character.hexadecimal 4 code = [(code / 4096).digitChar, (code / 256 % 16).digitChar,
      (code / 16 % 16).digitChar, (code % 16).digitChar] := by
  have first : Character.hexadecimal 1 (code / 4096) = [(code / 4096).digitChar] := by
    rw [Character.hexadecimal, Nat.toDigits_of_lt_base (by omega)]
    rfl
  have third : code / 16 / 16 = code / 256 := Nat.div_div_eq_div_mul code 16 16
  have fourth : code / 256 / 16 = code / 4096 := Nat.div_div_eq_div_mul code 256 16
  rw [hexadecimal_succ (by decide), hexadecimal_succ (by decide), hexadecimal_succ (by decide),
    third, fourth, first]
  rfl

theorem unit?_hexadecimal {code : Nat} (small : code < 0x10000) (rest : Text) :
    unit? (Character.hexadecimal 4 code ++ rest) = some (code, rest) := by
  have digits : 4096 * (code / 4096) + 256 * (code / 256 % 16) + 16 * (code / 16 % 16) +
      code % 16 = code := by omega
  rw [hexadecimal_four small]
  simp only [List.cons_append, List.nil_append, unit?]
  rw [hexDigit?_digitChar (by omega), hexDigit?_digitChar (by omega),
    hexDigit?_digitChar (by omega), hexDigit?_digitChar (by omega)]
  simp only [digits]

/-- A half or a whole character that is written as a unit. -/
theorem character?_unit {code : Nat} (small : code < 0x10000) (rest : Text) :
    character? (unit code ++ rest) =
      if isHighHalf code then
        (lowHalf? rest).map fun (low, behind) =>
          (Char.ofNat (0x10000 + 0x400 * (code - 0xD800) + (low - 0xDC00)), behind)
      else if isLowHalf code then none
      else some (Char.ofNat code, rest) := by
  rw [unit, List.cons_append, List.cons_append, character?, unit?_hexadecimal small]

theorem lowHalf?_unit {code : Nat} (low : isLowHalf code = true) (rest : Text) :
    lowHalf? (unit code ++ rest) = some (code, rest) := by
  have small : code < 0x10000 := by
    simp only [isLowHalf, Bool.and_eq_true, decide_eq_true_eq] at low
    omega
  rw [unit, List.cons_append, List.cons_append, lowHalf?, unit?_hexadecimal small]
  simp [low]

/-- No character is half of one. -/
theorem not_half (character : Char) :
    isHighHalf character.toNat = false ∧ isLowHalf character.toNat = false := by
  have valid : character.toNat.isValidChar := character.valid
  simp only [Nat.isValidChar] at valid
  simp only [isHighHalf, isLowHalf, Bool.and_eq_false_iff, decide_eq_false_iff_not]
  omega

/-- A character is written behind a backslash, as it is, or by one or two units. -/
theorem escaped_cases (character : Char) :
    (∃ letter, escaped character = ['\\', letter] ∧ letter ≠ 'u' ∧
      escapes.find? (·.1 == letter) = some (letter, character)) ∨
    (escaped character = [character] ∧ 32 ≤ character.toNat ∧ character.toNat < 127 ∧
      character ≠ '"' ∧ character ≠ '\\') ∨
    (escaped character = unit character.toNat ∧ character.toNat < 0x10000) ∨
    (escaped character = unit (0xD800 + (character.toNat - 0x10000) / 0x400) ++
      unit (0xDC00 + (character.toNat - 0x10000) % 0x400) ∧ 0x10000 ≤ character.toNat) := by
  have letter {code : Nat} (same : character.toNat = code) : character = Char.ofNat code := by
    rw [← same, Char.ofNat_toNat]
  unfold escaped
  dsimp only
  split
  · subst character
    exact .inl ⟨_, rfl, by decide, rfl⟩
  split
  · subst character
    exact .inl ⟨_, rfl, by decide, rfl⟩
  split
  · subst character
    exact .inl ⟨_, rfl, by decide, rfl⟩
  split
  · subst character
    exact .inl ⟨_, rfl, by decide, rfl⟩
  split
  · subst character
    exact .inl ⟨_, rfl, by decide, rfl⟩
  split
  · rename_i backspace
    rw [letter backspace]
    exact .inl ⟨_, rfl, by decide, rfl⟩
  split
  · rename_i feed
    rw [letter feed]
    exact .inl ⟨_, rfl, by decide, rfl⟩
  split
  · rename_i unquoted unescaped _ _ _ _ _ printable
    exact .inr (.inl ⟨rfl, printable.1, printable.2, unquoted, unescaped⟩)
  split
  · rename_i small
    exact .inr (.inr (.inl ⟨rfl, small⟩))
  · rename_i large
    exact .inr (.inr (.inr ⟨rfl, Nat.le_of_not_lt large⟩))

/-- An escaped character is read back, and no quote stands in front of it. -/
theorem character?_escaped (character : Char) (rest : Text) :
    character? (escaped character ++ rest) = some (character, rest) ∧
      ∃ first more, escaped character = first :: more ∧ first ≠ '"' := by
  have valid : character.toNat.isValidChar := character.valid
  rcases not_half character with ⟨notHigh, notLow⟩
  rcases escaped_cases character with ⟨letter, shape, other, found⟩ |
    ⟨shape, visible, -, unquoted, unescaped⟩ | ⟨shape, small⟩ | ⟨shape, large⟩
  · refine ⟨?_, _, _, shape, by decide⟩
    rw [shape, List.cons_append, List.cons_append, List.nil_append, character?]
    · rw [found]
      rfl
    · exact other
  · refine ⟨?_, _, _, shape, unquoted⟩
    rw [shape, List.cons_append, List.nil_append, character?]
    · rw [if_neg]
      simp only [unquoted, unescaped, or_false, Nat.not_lt]
      exact visible
    · exact fun digits same => absurd same unescaped
    · exact fun letter rest same => absurd same unescaped
  · refine ⟨?_, _, _, shape, by decide⟩
    rw [shape, character?_unit small, notHigh, notLow, Char.ofNat_toNat]
    rfl
  · refine ⟨?_, _, _, by rw [shape, unit, List.cons_append], by decide⟩
    simp only [Nat.isValidChar] at valid
    have high : isHighHalf (0xD800 + (character.toNat - 0x10000) / 0x400) = true := by
      simp only [isHighHalf, Bool.and_eq_true, decide_eq_true_eq]
      omega
    have low : isLowHalf (0xDC00 + (character.toNat - 0x10000) % 0x400) = true := by
      simp only [isLowHalf, Bool.and_eq_true, decide_eq_true_eq]
      omega
    have whole : 0x10000 + 0x400 * (0xD800 + (character.toNat - 0x10000) / 0x400 - 0xD800) +
        (0xDC00 + (character.toNat - 0x10000) % 0x400 - 0xDC00) = character.toNat := by omega
    rw [shape, List.append_assoc, character?_unit (by omega), high, lowHalf?_unit low, if_pos rfl,
      Option.map_some]
    dsimp only
    rw [whole, Char.ofNat_toNat]

theorem characters?_string {text : Text} {fuel : Nat} (enough : text.length ≤ fuel)
    (rest : Text) : characters? fuel (text.flatMap escaped ++ '"' :: rest) = some (text, rest) := by
  induction text generalizing fuel with
  | nil => cases fuel <;> rfl
  | cons character text induction =>
      cases fuel with
      | zero => exact absurd enough (Nat.not_succ_le_zero _)
      | succ fuel =>
          have later := induction (Nat.le_of_succ_le_succ enough)
          rcases character?_escaped character (text.flatMap escaped ++ '"' :: rest) with
            ⟨read, first, more, shape, unquoted⟩
          rw [List.flatMap_cons, List.append_assoc]
          rw [shape, List.cons_append] at read ⊢
          rw [characters?]
          · rw [read, Option.bind_some]
            dsimp only
            rw [later]
            rfl
          · rintro _ ⟨⟩
            exact unquoted rfl

/-! ## Visible text -/

/-- Nothing but the visible characters of ASCII and spaces. -/
def IsVisible (text : Text) : Prop :=
  ∀ character ∈ text, 32 ≤ character.toNat ∧ character.toNat < 127

instance (text : Text) : Decidable (IsVisible text) :=
  decidableForallMem text _

theorem IsVisible.append {left right : Text} (leftVisible : IsVisible left)
    (rightVisible : IsVisible right) : IsVisible (left ++ right) :=
  List.forall_mem_append.mpr ⟨leftVisible, rightVisible⟩

theorem isVisible_unit {code : Nat} (small : code < 0x10000) : IsVisible (unit code) := by
  have digit : ∀ digit < 16, IsVisible [digit.digitChar] := by decide
  have sign : IsVisible ['\\', 'u'] := by decide
  rw [unit, hexadecimal_four small]
  exact (sign.append (digit _ (by omega))).append ((digit _ (by omega)).append
    ((digit _ (by omega)).append (digit _ (by omega))))

theorem isVisible_escaped (character : Char) : IsVisible (escaped character) := by
  have letters : ∀ pair ∈ escapes, IsVisible ['\\', pair.1] := by decide
  have bounded : character.toNat.isValidChar := character.valid
  simp only [Nat.isValidChar] at bounded
  rcases escaped_cases character with ⟨letter, shape, -, found⟩ |
    ⟨shape, visible, bound, -, -⟩ | ⟨shape, small⟩ | ⟨shape, large⟩
  · rw [shape]
    exact letters _ (List.mem_of_find?_eq_some found)
  · rw [shape]
    exact List.forall_mem_singleton.mpr ⟨visible, bound⟩
  · rw [shape]
    exact isVisible_unit small
  · rw [shape]
    exact (isVisible_unit (by omega)).append (isVisible_unit (by omega))

theorem isVisible_string (text : Text) : IsVisible (string text) := by
  have quote : IsVisible ['"'] := by decide
  refine IsVisible.append (quote.append fun character member => ?_) quote
  rcases List.mem_flatMap.mp member with ⟨source, -, inside⟩
  exact isVisible_escaped source character inside

end Json

end SchemaSeed
