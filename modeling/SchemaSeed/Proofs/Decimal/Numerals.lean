import SchemaSeed.Decimal.Shortest
import SchemaSeed.Proofs.Decimal.Natural

/-! The characters with which numbers are written, whole or not. -/

namespace SchemaSeed

namespace Decimal

/-- Figures, signs, the point, and the letters of exponents and of the numbers that are
none. -/
def numerals : Text :=
  figures ++ ['+', '-', '.', 'a', 'e', 'f', 'i', 'n']

theorem natural_subset (number : Nat) : natural number ⊆ numerals :=
  fun character member =>
    List.mem_append_left _ (mem_figures_of_mem_natural number character member)

theorem zeros_subset (count : Nat) : List.replicate count '0' ⊆ numerals :=
  List.replicate_subset.mpr (.inr (by decide))

theorem integer_subset (number : Int) : integer number ⊆ numerals := by
  rw [integer]
  split
  · exact List.cons_subset.mpr ⟨by decide, natural_subset _⟩
  · exact natural_subset _

theorem withoutTrailingZeros_subset {digits : Text} (known : digits ⊆ numerals) :
    withoutTrailingZeros digits ⊆ numerals := by
  rw [withoutTrailingZeros, List.reverse_subset]
  exact List.Subset.trans (List.dropWhile_subset _) (List.reverse_subset.mpr known)

theorem positional_subset {digits : Text} (known : digits ⊆ numerals) (place : Int) :
    positional digits place ⊆ numerals := by
  rw [positional]
  split
  · exact List.append_subset.mpr
      ⟨List.append_subset.mpr ⟨by decide, zeros_subset _⟩, known⟩
  · split
    · exact List.append_subset.mpr
        ⟨List.append_subset.mpr ⟨known, zeros_subset _⟩, by decide⟩
    · exact List.append_subset.mpr ⟨List.append_subset.mpr
        ⟨List.Subset.trans (List.take_subset _ _) known, by decide⟩,
        List.Subset.trans (List.drop_subset _ _) known⟩

theorem exponential_subset {digits : Text} (known : digits ⊆ numerals) (exponent : Int) :
    exponential digits exponent ⊆ numerals := by
  have fraction : (if digits.length ≤ 1 then [] else '.' :: digits.drop 1) ⊆ numerals := by
    split
    · exact List.nil_subset _
    · exact List.cons_subset.mpr ⟨by decide, List.Subset.trans (List.drop_subset _ _) known⟩
  have sign : (if exponent < 0 then "-" else "+").toList ⊆ numerals := by
    split <;> decide
  simp only [exponential, List.append_subset]
  exact ⟨⟨⟨⟨⟨List.Subset.trans (List.take_subset _ _) known, fraction⟩, by decide⟩, sign⟩,
    zeros_subset _⟩, natural_subset _⟩

theorem render_subset (decimal : Decimal) : render decimal ⊆ numerals := by
  have known := withoutTrailingZeros_subset (natural_subset decimal.digits)
  simp only [render]
  split
  · exact positional_subset known _
  · exact exponential_subset known _

theorem ofFloat_subset (number : Float) : ofFloat number ⊆ numerals := by
  rw [ofFloat]
  split
  · split
    · decide
    · split <;> decide
  · rename_i parts _
    have magnitude : (if parts.significand = 0 then "0.0".toList else render (shortest parts)) ⊆
        numerals := by
      split
      · decide
      · exact render_subset _
    simp only
    split
    · exact List.cons_subset.mpr ⟨by decide, magnitude⟩
    · exact magnitude

theorem fixed_subset (places : Nat) (number : Float) : fixed places number ⊆ numerals := by
  rw [fixed]
  split
  · split
    · decide
    · split <;> decide
  · rename_i parts _
    simp only
    generalize roundDivide _ _ = rounded
    have padded : List.replicate (places + 1 - (natural rounded).length) '0' ++ natural rounded ⊆
        numerals := List.append_subset.mpr ⟨zeros_subset _, natural_subset _⟩
    generalize List.replicate _ '0' ++ natural rounded = digits at padded ⊢
    have fraction : (if places = 0 then [] else '.' :: digits.drop (digits.length - places)) ⊆
        numerals := by
      split
      · exact List.nil_subset _
      · exact List.cons_subset.mpr ⟨by decide, List.Subset.trans (List.drop_subset _ _) padded⟩
    have magnitude := List.append_subset.mpr
      ⟨List.Subset.trans (List.take_subset (digits.length - places) _) padded, fraction⟩
    split
    · exact List.cons_subset.mpr ⟨by decide, magnitude⟩
    · exact magnitude

theorem groupedOnto_subset {collected reversed : Text} (before : collected ⊆ ',' :: numerals)
    (digits : reversed ⊆ numerals) : groupedOnto collected reversed ⊆ ',' :: numerals := by
  have known {digits : Text} (known : digits ⊆ numerals) : digits ⊆ ',' :: numerals :=
    List.Subset.trans known (List.subset_cons_self _ _)
  fun_induction groupedOnto collected reversed with
  | case1 collected ones tens hundreds more rest induction =>
      have here := known digits
      simp only [List.cons_subset] at here digits
      refine induction ?_ (List.cons_subset.mpr digits.2.2.2)
      simp only [List.cons_subset]
      exact ⟨List.mem_cons_self, here.2.2.1, here.2.1, here.1, before⟩
  | case2 collected short =>
      exact List.append_subset.mpr ⟨List.reverse_subset.mpr (known digits), before⟩

theorem grouped_subset (number : Int) : grouped number ⊆ ',' :: numerals := by
  have digits : groupedOnto [] (natural number.natAbs).reverse ⊆ ',' :: numerals :=
    groupedOnto_subset (List.nil_subset _) (List.reverse_subset.mpr (natural_subset _))
  simp only [grouped]
  split
  · exact List.cons_subset.mpr ⟨by decide, digits⟩
  · exact digits

end Decimal

end SchemaSeed
