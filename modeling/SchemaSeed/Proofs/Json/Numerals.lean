import Mathlib.Data.List.TakeWhile
import SchemaSeed.Datum.Json
import SchemaSeed.Proofs.Decimal.Nearest
import SchemaSeed.Proofs.Decimal.Numerals

/-! Numbers read back from JSON.  Whole numbers are found again as they were, and the numeral of
a double is read as the exact decimal that was chosen for it, in either notation. -/

namespace SchemaSeed

namespace Json

/-! ## The reader -/

/-- A number is whole, or a decimal whose sign stands even before zero. -/
inductive Number where
  | whole (value : Int)
  | decimal (negative : Bool) (magnitude : ℚ)

def isFigure (character : Char) : Bool :=
  List.elem character Decimal.figures

/-- Figures before the point: a single zero, or none in front. -/
def isWhole : Text → Bool
  | [] => false
  | ['0'] => true
  | first :: _ => first != '0'

/-- The figures behind a point, if there is one, and the text behind them. -/
def fraction? : Text → Option (Text × Text)
  | '.' :: rest =>
      let figures := rest.takeWhile isFigure
      if figures.isEmpty then none else some (figures, rest.dropWhile isFigure)
  | rest => some ([], rest)

def exponent? : Text → Option Int
  | [] => some 0
  | letter :: rest =>
      if letter = 'e' ∨ letter = 'E' then
        match rest with
        | '+' :: figures => (Decimal.figured? figures).map Int.ofNat
        | _ => Decimal.spelled? rest
      else none

def unsigned? (negative : Bool) (text : Text) : Option Number :=
  let whole := text.takeWhile isFigure
  let rest := text.dropWhile isFigure
  if !isWhole whole then none
  else if rest.isEmpty then
    let value : Int := Decimal.value whole
    some (.whole (if negative then -value else value))
  else
    (fraction? rest).bind fun (figures, behind) =>
      (exponent? behind).map fun exponent =>
        .decimal negative (Decimal.scaled 10 (Decimal.value (whole ++ figures))
          (exponent - figures.length))

def number? : Text → Option Number
  | '-' :: rest => unsigned? true rest
  | text => unsigned? false text

/-! ## Figures -/

/-- Nothing that could go on a run of wanted characters. -/
def Stops (wanted : Char → Bool) (rest : Text) : Prop :=
  ∀ character, rest.head? = some character → wanted character = false

section Stops

variable {wanted : Char → Bool}

theorem stops_nil : Stops wanted [] := by
  rintro _ ⟨⟩

theorem stops_of_head {first : Char} (foreign : wanted first = false) (rest : Text) :
    Stops wanted (first :: rest) := by
  rintro _ ⟨⟩
  exact foreign

/-- The run of wanted characters ends where the text behind it begins. -/
theorem split_of_stops {front rest : Text} (known : ∀ character ∈ front, wanted character = true)
    (stops : Stops wanted rest) :
    (front ++ rest).takeWhile wanted = front ∧ (front ++ rest).dropWhile wanted = rest := by
  rw [List.takeWhile_append_of_pos known, List.dropWhile_append_of_pos known]
  cases rest with
  | nil => simp
  | cons first rest => simp [stops first rfl]

end Stops

theorem isFigure_of_known {digits : Text}
    (known : ∀ character ∈ digits, character ∈ Decimal.figures) :
    ∀ character ∈ digits, isFigure character = true :=
  fun character member => List.elem_eq_true_of_mem (known character member)

end Json

namespace Decimal

/-- What is left without trailing zeros, and how many there were. -/
theorem exists_zeros (text : Text) :
    ∃ zeros, text = withoutTrailingZeros text ++ List.replicate zeros '0' := by
  have split := List.takeWhile_append_dropWhile (p := (· == '0')) (l := text.reverse)
  refine ⟨(text.reverse.takeWhile (· == '0')).length, ?_⟩
  have same : text.reverse.takeWhile (· == '0') =
      List.replicate (text.reverse.takeWhile (· == '0')).length '0' := by
    refine List.eq_replicate_of_mem fun character member => ?_
    simpa using List.mem_takeWhile_imp member
  rw [withoutTrailingZeros, ← List.reverse_replicate, ← same, ← List.reverse_append, split,
    List.reverse_reverse]

/-- The digits of a positive number without trailing zeros, beside what these zeros were worth. -/
theorem exists_stripped {decimal : Decimal} (positive : 0 < decimal.digits) :
    ∃ first rest, withoutTrailingZeros (natural decimal.digits) = first :: rest ∧ first ≠ '0' ∧
      (∀ character ∈ first :: rest, character ∈ figures) ∧
      scaled 10 (value (first :: rest)) (decimal.scale + (natural decimal.digits).length -
        (first :: rest).length) = scaled 10 decimal.digits decimal.scale := by
  rcases exists_zeros (natural decimal.digits) with ⟨zeros, shape⟩
  rcases head_natural positive with ⟨first, more, written, nonzero⟩
  have known := mem_figures_of_mem_natural decimal.digits
  have denoted := value_natural decimal.digits
  cases stripped : withoutTrailingZeros (natural decimal.digits) with
  | nil =>
      rw [stripped, List.nil_append] at shape
      have leading : first ∈ List.replicate zeros '0' := by
        rw [← shape, written]
        exact List.mem_cons_self
      exact absurd (List.eq_of_mem_replicate leading) nonzero
  | cons head rest =>
      rw [stripped] at shape
      have same : head = first := by
        rw [written, List.cons_append] at shape
        exact (List.cons_eq_cons.mp shape).1.symm
      have length := congrArg List.length shape
      rw [List.length_append, List.length_replicate] at length
      refine ⟨head, rest, rfl, same ▸ nonzero, fun character member => known character ?_, ?_⟩
      · rw [shape]
        exact List.mem_append_left _ member
      · have digits : decimal.digits = value (head :: rest) * Nat.pow 10 zeros := by
          rw [← denoted, shape, value_append, value_zeros, List.length_replicate, Nat.add_zero]
        rw [length, digits, scaled_mul_pow]
        congr 1
        push_cast
        omega

end Decimal

namespace Json

open Decimal (figures natural value scaled positional exponential)

theorem isWhole_cons {first : Char} (nonzero : first ≠ '0') (rest : Text) :
    isWhole (first :: rest) = true := by
  rw [isWhole]
  · simpa using nonzero
  · rintro rfl
    exact fun _ => nonzero rfl

/-- A numeral with a point. -/
theorem unsigned?_point {whole fraction : Text} (begun : isWhole whole = true)
    (knownWhole : ∀ character ∈ whole, character ∈ figures) (nonempty : fraction ≠ [])
    (knownFraction : ∀ character ∈ fraction, character ∈ figures) (negative : Bool)
    {rest : Text} (stops : Stops isFigure rest) {exponent : Int}
    (read : exponent? rest = some exponent) :
    unsigned? negative (whole ++ '.' :: (fraction ++ rest)) =
      some (.decimal negative
        (scaled 10 (value (whole ++ fraction)) (exponent - fraction.length))) := by
  have point : isFigure '.' = false := by decide
  rcases split_of_stops (isFigure_of_known knownWhole) (stops_of_head point (fraction ++ rest)) with
    ⟨taken, dropped⟩
  rcases split_of_stops (isFigure_of_known knownFraction) stops with
    ⟨takenFraction, droppedFraction⟩
  have found : fraction? ('.' :: (fraction ++ rest)) = some (fraction, rest) := by
    rw [fraction?, takenFraction, droppedFraction, if_neg (by simpa using nonempty)]
  simp only [unsigned?, taken, dropped, begun, found, Option.bind_some, read, Option.map_some]
  rfl

/-- A numeral without a point, but with an exponent. -/
theorem unsigned?_exponent {whole : Text} (begun : isWhole whole = true)
    (known : ∀ character ∈ whole, character ∈ figures) (negative : Bool) {rest : Text}
    {exponent : Int} (read : exponent? ('e' :: rest) = some exponent) :
    unsigned? negative (whole ++ 'e' :: rest) =
      some (.decimal negative (scaled 10 (value whole) exponent)) := by
  have letter : isFigure 'e' = false := by decide
  rcases split_of_stops (isFigure_of_known known) (stops_of_head letter rest) with ⟨taken, dropped⟩
  have found : fraction? ('e' :: rest) = some ([], 'e' :: rest) := by
    rw [fraction?]
    rintro _ ⟨⟩
  simp only [unsigned?, taken, dropped, begun, found, Option.bind_some, read, Option.map_some,
    List.append_nil, List.length_nil, Nat.cast_zero, Int.sub_zero]
  rfl

theorem unsigned?_whole {whole : Text} (begun : isWhole whole = true)
    (known : ∀ character ∈ whole, character ∈ figures) (negative : Bool) :
    unsigned? negative whole =
      some (.whole (if negative then -(value whole : Int) else value whole)) := by
  rcases split_of_stops (isFigure_of_known known) stops_nil with ⟨taken, dropped⟩
  rw [List.append_nil] at taken dropped
  simp only [unsigned?, taken, dropped, begun]
  rfl

theorem isWhole_natural (number : Nat) : isWhole (natural number) = true := by
  rcases Nat.eq_zero_or_pos number with rfl | positive
  · decide
  · rcases Decimal.head_natural positive with ⟨first, rest, shape, nonzero⟩
    rw [shape]
    exact isWhole_cons nonzero rest

/-- Without a sign a number starts with a figure. -/
theorem isFigure_of_unsigned? {negative : Bool} {text : Text} {number : Number}
    (read : unsigned? negative text = some number) :
    ∃ first rest, text = first :: rest ∧ isFigure first = true := by
  cases text with
  | nil => cases read
  | cons first rest =>
      refine ⟨first, rest, rfl, ?_⟩
      by_contra foreign
      have none : (first :: rest).takeWhile isFigure = [] := by simp [foreign]
      rw [unsigned?, none] at read
      cases read

theorem number?_of_unsigned? {text : Text} {number : Number}
    (read : unsigned? false text = some number) : number? text = some number := by
  rcases isFigure_of_unsigned? read with ⟨first, rest, rfl, figure⟩
  rw [number?]
  · exact read
  · rintro _ ⟨⟩
    cases figure

theorem number?_integer (number : Int) :
    number? (Decimal.integer number) = some (.whole number) := by
  have read (negative : Bool) := unsigned?_whole (isWhole_natural number.natAbs)
    (Decimal.mem_figures_of_mem_natural number.natAbs) negative
  rw [Decimal.value_natural] at read
  rw [Decimal.integer]
  split
  · rw [number?, read, if_pos rfl]
    congr 2
    omega
  · rw [number?_of_unsigned? (read false), if_neg (by decide)]
    congr 2
    omega

theorem zeros_known (count : Nat) :
    ∀ character ∈ List.replicate count '0', character ∈ figures := by
  intro character member
  rw [List.eq_of_mem_replicate member]
  decide

/-- The exponent of a numeral, with its sign and with zeros in front. -/
theorem exponent?_signed (exponent : Int) (zeros : Nat) :
    exponent? ('e' :: ((if exponent < 0 then "-" else "+").toList ++ List.replicate zeros '0' ++
      natural exponent.natAbs)) = some exponent := by
  have figured : Decimal.Figured (List.replicate zeros '0' ++ natural exponent.natAbs) :=
    ⟨List.append_ne_nil_of_right_ne_nil _ (Decimal.natural_ne_nil _),
      List.forall_mem_append.mpr ⟨zeros_known zeros, Decimal.mem_figures_of_mem_natural _⟩⟩
  have denoted := figured.figured?
  rw [Decimal.value_zeros_append, Decimal.value_natural] at denoted
  split
  · have minus : exponent? ('e' :: ("-".toList ++ List.replicate zeros '0' ++
        natural exponent.natAbs)) = Decimal.spelled? ('-' :: (List.replicate zeros '0' ++
          natural exponent.natAbs)) := rfl
    rw [minus, Decimal.spelled?, denoted, Option.map_some]
    congr 1
    omega
  · have plus : exponent? ('e' :: ("+".toList ++ List.replicate zeros '0' ++
        natural exponent.natAbs)) = (Decimal.figured? (List.replicate zeros '0' ++
          natural exponent.natAbs)).map Int.ofNat := rfl
    rw [plus, denoted, Option.map_some]
    congr 1
    simp only [Int.ofNat_eq_natCast]
    omega

theorem exponent?_nil : exponent? [] = some 0 := rfl

section Notations

variable {first : Char} {rest : Text} (known : ∀ character ∈ first :: rest, character ∈ figures)

include known

/-- All figures behind the point. -/
theorem unsigned?_zeros_before (count : Nat) (negative : Bool) :
    unsigned? negative (['0'] ++ '.' :: (List.replicate count '0' ++ first :: rest)) =
      some (.decimal negative (scaled 10 (value (first :: rest))
        (-count - (first :: rest).length))) := by
  have fraction : List.replicate count '0' ++ first :: rest ≠ [] := by simp
  have read := unsigned?_point (by decide : isWhole ['0'] = true) (by decide) fraction
    (List.forall_mem_append.mpr ⟨zeros_known count, known⟩) negative stops_nil exponent?_nil
  have denoted : value (['0'] ++ (List.replicate count '0' ++ first :: rest)) =
      value (first :: rest) := Decimal.value_zeros_append (count + 1) _
  have exponent : (0 : Int) - (List.replicate count '0' ++ first :: rest).length =
      -count - (first :: rest).length := by
    rw [List.length_append, List.length_replicate]
    omega
  rwa [denoted, exponent, List.append_nil] at read

variable (nonzero : first ≠ '0')

include nonzero

/-- All figures in front of the point. -/
theorem unsigned?_zeros_behind (count : Nat) (negative : Bool) :
    unsigned? negative (first :: rest ++ List.replicate count '0' ++ '.' :: ['0']) =
      some (.decimal negative (scaled 10 (value (first :: rest)) count)) := by
  have whole : isWhole (first :: rest ++ List.replicate count '0') = true :=
    isWhole_cons nonzero _
  have read := unsigned?_point whole (List.forall_mem_append.mpr ⟨known, zeros_known count⟩)
    (List.cons_ne_nil '0' []) (by decide) negative stops_nil exponent?_nil
  have denoted : value (first :: rest ++ List.replicate count '0' ++ ['0']) =
      value (first :: rest) * Nat.pow 10 (count + 1) := by
    rw [List.append_assoc, ← List.replicate_succ', Decimal.value_append, Decimal.value_zeros,
      List.length_replicate, Nat.add_zero]
  have exponent : (0 : Int) - ['0'].length + (count + 1 : Nat) = count := by
    simp only [List.length_singleton]
    omega
  rwa [denoted, Decimal.scaled_mul_pow, exponent] at read

/-- The point between two figures. -/
theorem unsigned?_inside {count : Nat} (positive : 0 < count)
    (short : count < (first :: rest).length) (negative : Bool) :
    unsigned? negative ((first :: rest).take count ++ '.' :: (first :: rest).drop count) =
      some (.decimal negative (scaled 10 (value (first :: rest))
        (count - (first :: rest).length))) := by
  have whole : isWhole ((first :: rest).take count) = true := by
    rcases Nat.exists_eq_succ_of_ne_zero positive.ne' with ⟨less, rfl⟩
    exact isWhole_cons nonzero _
  have fraction : (first :: rest).drop count ≠ [] := by
    rw [Ne, List.drop_eq_nil_iff, Nat.not_le]
    exact short
  have read := unsigned?_point whole
    (fun character member => known character (List.take_subset _ _ member)) fraction
    (fun character member => known character (List.drop_subset _ _ member)) negative stops_nil
    exponent?_nil
  have exponent : (0 : Int) - ((first :: rest).drop count).length =
      count - (first :: rest).length := by
    rw [List.length_drop]
    omega
  rwa [List.take_append_drop, exponent, List.append_nil] at read

theorem unsigned?_positional (place : Int) (negative : Bool) :
    unsigned? negative (positional (first :: rest) place) =
      some (.decimal negative (scaled 10 (value (first :: rest))
        (place - (first :: rest).length))) := by
  rw [positional]
  split
  · rename_i small
    have read := unsigned?_zeros_before known (-place).toNat negative
    have same : -((-place).toNat : Int) = place := by omega
    rw [same] at read
    exact read
  · split
    · rename_i positive long
      have read := unsigned?_zeros_behind known nonzero
        (place.toNat - (first :: rest).length) negative
      have same : ((place.toNat - (first :: rest).length : Nat) : Int) =
          place - (first :: rest).length := by omega
      rw [same] at read
      exact read
    · rename_i positive short
      have read := unsigned?_inside known nonzero (by omega : 0 < place.toNat) (by omega) negative
      have same : (place.toNat : Int) = place := by omega
      rw [same] at read
      rw [List.append_assoc]
      exact read

theorem unsigned?_exponential (exponent : Int) (negative : Bool) :
    unsigned? negative (exponential (first :: rest) exponent) =
      some (.decimal negative (scaled 10 (value (first :: rest))
        (exponent + 1 - (first :: rest).length))) := by
  have letter : Stops isFigure ('e' :: ((if exponent < 0 then "-" else "+").toList ++
      List.replicate (2 - (natural exponent.natAbs).length) '0' ++ natural exponent.natAbs)) :=
    stops_of_head (by decide) _
  have signed := exponent?_signed exponent (2 - (natural exponent.natAbs).length)
  have leading : ∀ character ∈ [first], character ∈ figures :=
    List.forall_mem_singleton.mpr (known first List.mem_cons_self)
  have whole : isWhole [first] = true := isWhole_cons nonzero []
  cases rest with
  | nil =>
      have read := unsigned?_exponent whole leading negative signed
      have same : exponent + 1 - ([first].length : Nat) = exponent := by
        simp only [List.length_singleton]
        omega
      rw [same, ← read]
      simp [exponential]
  | cons second rest =>
      have read := unsigned?_point whole leading (List.cons_ne_nil second rest)
        (fun character member => known character (List.mem_cons_of_mem first member)) negative
        letter signed
      have same : exponent - ((second :: rest).length : Nat) =
          exponent + 1 - (first :: second :: rest).length := by
        simp only [List.length_cons]
        omega
      have joined : [first] ++ second :: rest = first :: second :: rest := rfl
      rw [same, joined] at read
      rw [← read]
      simp [exponential]

end Notations

theorem unsigned?_render {decimal : Decimal} (positive : 0 < decimal.digits) (negative : Bool) :
    unsigned? negative (Decimal.render decimal) =
      some (.decimal negative (scaled 10 decimal.digits decimal.scale)) := by
  rcases Decimal.exists_stripped positive with ⟨first, rest, stripped, nonzero, known, same⟩
  simp only [Decimal.render, stripped]
  split
  · rw [unsigned?_positional known nonzero, same]
  · rw [unsigned?_exponential known nonzero, Int.sub_add_cancel, same]

theorem nearestTo_zero {number : Binary64} (zero : number.significand = 0) :
    number.NearestTo 0 := by
  have size : number.magnitude = 0 := by
    rw [Binary64.magnitude_eq, zero, Nat.cast_zero, zero_mul]
  constructor
  · intro other _ larger
    rw [size] at larger ⊢
    exact .inl (by linarith)
  · intro other _ smaller
    have nonneg : 0 ≤ other.magnitude := by
      rw [Binary64.magnitude_eq]
      exact mul_nonneg (Nat.cast_nonneg _) (Binary64.unit_pos _).le
    rw [size] at smaller
    exact absurd smaller (not_lt.mpr nonneg)

/-- The numeral of a double has its sign, and a size nearest to its own. -/
theorem number?_ofFloat {value : Float} {parts : Binary64}
    (known : Binary64.ofFloat? value = some parts) :
    ∃ magnitude, number? (Decimal.ofFloat value) = some (.decimal parts.negative magnitude) ∧
      parts.NearestTo magnitude := by
  have read (negative : Bool) : ∃ magnitude,
      unsigned? negative (if parts.significand = 0 then "0.0"
        else Decimal.render (Decimal.shortest parts)) = some (.decimal negative magnitude) ∧
        parts.NearestTo magnitude := by
    split
    · rename_i zero
      refine ⟨_, unsigned?_point (by decide : isWhole ['0'] = true) (by decide)
        (List.cons_ne_nil '0' []) (by decide) negative stops_nil rfl, ?_⟩
      have digits : Decimal.value (['0'] ++ ['0']) = 0 := by decide
      rw [digits, scaled, Nat.zero_mul, Nat.cast_zero, zero_div]
      exact nearestTo_zero zero
    · rename_i nonzero
      rcases Decimal.shortest_nearest (Binary64.isNormal_of_ofBits? known)
        (Nat.pos_of_ne_zero nonzero) with ⟨digits, nearest⟩
      exact ⟨_, unsigned?_render digits negative, nearest⟩
  rw [Decimal.ofFloat, known]
  dsimp only
  cases sign : parts.negative with
  | true => exact read true
  | false => exact (read false).imp fun _ found => ⟨number?_of_unsigned? found.1, found.2⟩

/-! ## Characters -/

/-- The characters of numbers. -/
def isNumeral (character : Char) : Bool :=
  isFigure character || ['+', '-', '.', 'e', 'E'].elem character

theorem isNumeral_of_figured? {text : Text} {value : Nat}
    (read : Decimal.figured? text = some value) :
    ∀ character ∈ text, isNumeral character = true := by
  simp only [Decimal.figured?] at read
  split at read
  · rename_i figured
    rw [Bool.and_eq_true, List.all_eq_true] at figured
    intro character member
    rw [isNumeral, isFigure, figured.2 character member, Bool.true_or]
  · cases read

theorem isNumeral_of_spelled? {text : Text} {value : Int}
    (read : Decimal.spelled? text = some value) :
    ∀ character ∈ text, isNumeral character = true := by
  unfold Decimal.spelled? at read
  split at read
  · rcases Option.map_eq_some_iff.mp read with ⟨_, figured, -⟩
    exact List.forall_mem_cons.mpr ⟨by decide, isNumeral_of_figured? figured⟩
  · rcases Option.map_eq_some_iff.mp read with ⟨_, figured, -⟩
    exact isNumeral_of_figured? figured

theorem isNumeral_of_exponent? {text : Text} {exponent : Int}
    (read : exponent? text = some exponent) : ∀ character ∈ text, isNumeral character = true := by
  unfold exponent? at read
  split at read
  · simp
  · split at read
    · rename_i letter rest mark
      have here : isNumeral letter = true := by rcases mark with rfl | rfl <;> decide
      refine List.forall_mem_cons.mpr ⟨here, ?_⟩
      split at read
      · rcases Option.map_eq_some_iff.mp read with ⟨_, figured, -⟩
        exact List.forall_mem_cons.mpr ⟨by decide, isNumeral_of_figured? figured⟩
      · exact isNumeral_of_spelled? read
    · cases read

theorem isNumeral_takeWhile (text : Text) :
    ∀ character ∈ text.takeWhile isFigure, isNumeral character = true := by
  intro character member
  rw [isNumeral, List.mem_takeWhile_imp member, Bool.true_or]

theorem isNumeral_of_unsigned? {negative : Bool} {text : Text} {number : Number}
    (read : unsigned? negative text = some number) :
    ∀ character ∈ text, isNumeral character = true := by
  rw [← @List.takeWhile_append_dropWhile _ isFigure text]
  refine List.forall_mem_append.mpr ⟨isNumeral_takeWhile text, ?_⟩
  simp only [unsigned?] at read
  split at read
  · cases read
  · split at read
    · rename_i ended
      rw [List.isEmpty_iff.mp ended]
      simp
    · rcases Option.bind_eq_some_iff.mp read with ⟨⟨figures, behind⟩, found, mapped⟩
      rcases Option.map_eq_some_iff.mp mapped with ⟨_, ended, -⟩
      have later := isNumeral_of_exponent? ended
      generalize text.dropWhile isFigure = rest at found
      unfold fraction? at found
      split at found
      · rename_i inside
        dsimp only at found
        split at found
        · cases found
        · cases found
          rw [← @List.takeWhile_append_dropWhile _ isFigure inside]
          exact List.forall_mem_cons.mpr ⟨by decide,
            List.forall_mem_append.mpr ⟨isNumeral_takeWhile inside, later⟩⟩
      · cases found
        exact later

theorem isNumeral_of_number? {text : Text} {number : Number} (read : number? text = some number) :
    ∀ character ∈ text, isNumeral character = true := by
  unfold number? at read
  split at read
  · exact List.forall_mem_cons.mpr ⟨by decide, isNumeral_of_unsigned? read⟩
  · exact isNumeral_of_unsigned? read

end Json

end SchemaSeed
