import SchemaSeed.Binary64.Numeral
import SchemaSeed.Datum
import SchemaSeed.Text.LowerCase

/-! Reading typed values from untyped ones.  Numbers and truth values are read
leniently, text strictly.  All complaints about one set of fields are collected,
in the order of the fields.  Conversions and complaints are those that `pydantic` documents
for its lax mode. -/

namespace SchemaSeed

/-- What is wrong with one value, whatever field it stands in. -/
structure Complaint where
  kind : Text
  message : Text

/-- A complaint about the value `input` found at `location`. -/
structure Issue where
  location : List Text
  kind : Text
  message : Text
  input : Datum

inductive Checked (α : Type u) where
  | valid (value : α)
  | invalid (issues : List Issue)

namespace Checked

def map (transform : α → β) : Checked α → Checked β
  | .valid value => .valid (transform value)
  | .invalid issues => .invalid issues

/-- Applies a checked function; complaints about both sides are kept. -/
def apply : Checked (α → β) → Checked α → Checked β
  | .valid transform, .valid value => .valid (transform value)
  | .valid _, .invalid issues => .invalid issues
  | .invalid issues, .valid _ => .invalid issues
  | .invalid earlier, .invalid later => .invalid (earlier ++ later)

instance : Applicative Checked where
  pure := .valid
  seq transform value := transform.apply (value ())

def all : List (Checked α) → Checked (List α)
  | [] => .valid []
  | head :: tail => (head.map List.cons).apply (all tail)

/-- The same complaints, one level further down. -/
def below (name : Text) : Checked α → Checked α
  | .valid value => .valid value
  | .invalid issues =>
      .invalid (issues.map fun issue => { issue with location := name :: issue.location })

end Checked

namespace Complaint

def raise (complaint : Complaint) (input : Datum) : Checked α :=
  .invalid [⟨[], complaint.kind, complaint.message, input⟩]

def integerText : Complaint :=
  ⟨"int_parsing", "Input should be a valid integer, unable to parse string as an integer"⟩

def integerTextSize : Complaint :=
  ⟨"int_parsing_size", "Unable to parse input string as an integer, exceeded maximum size"⟩

def integerFraction : Complaint :=
  ⟨"int_from_float", "Input should be a valid integer, got a number with a fractional part"⟩

def integerType : Complaint :=
  ⟨"int_type", "Input should be a valid integer"⟩

def notFinite : Complaint :=
  ⟨"finite_number", "Input should be a finite number"⟩

def truthText : Complaint :=
  ⟨"bool_parsing", "Input should be a valid boolean, unable to interpret input"⟩

def truthType : Complaint :=
  ⟨"bool_type", "Input should be a valid boolean"⟩

def textType : Complaint :=
  ⟨"string_type", "Input should be a valid string"⟩

def realText : Complaint :=
  ⟨"float_parsing", "Input should be a valid number, unable to parse string as a number"⟩

def realType : Complaint :=
  ⟨"float_type", "Input should be a valid number"⟩

def listType : Complaint :=
  ⟨"tuple_type", "Input should be a valid tuple"⟩

def objectType (name : Text) : Complaint :=
  ⟨"model_type", "Input should be a valid dictionary or instance of " ++ name⟩

def missing : Complaint :=
  ⟨"missing", "Field required"⟩

def atLeast (bound : Int) : Complaint :=
  ⟨"greater_than_equal", "Input should be greater than or equal to " ++ Decimal.integer bound⟩

def atMost (bound : Int) : Complaint :=
  ⟨"less_than_equal", "Input should be less than or equal to " ++ Decimal.integer bound⟩

end Complaint

namespace Validation

/-! A whole number in a text may be surrounded by white space, signed, grouped by
single underscores between digits, and followed by a fraction of zeros. -/

def isPadding (character : Char) : Bool :=
  let code := character.toNat
  (9 ≤ code && code ≤ 13) || code == 32 || code == 0x85 || code == 0xA0 ||
    code == 0x1680 || (0x2000 ≤ code && code ≤ 0x200A) || code == 0x2028 || code == 0x2029 ||
    code == 0x202F || code == 0x205F || code == 0x3000

def isNonzeroDigit (character : Char) : Bool :=
  character.isDigit && character != '0'

/-- A numeral from the first character that counts, `last` being the one before.  Zeros
and underscores do not count, but the zero before a point stays, and so does the last
character of a numeral that has no other.  A minus sign may stand after zeros. -/
def afterZeros? (last : Char) : Text → Option Text
  | [] => some [last]
  | character :: rest =>
      if character = '0' ∨ character = '_' then afterZeros? character rest
      else if character = '.' then some (last :: character :: rest)
      else if isNonzeroDigit character ∨ character = '-' then some (character :: rest)
      else none

/-- A numeral without the zeros it starts with, if it starts with a digit. -/
def withoutLeadingZeros? : Text → Option Text
  | [] => none
  | first :: rest =>
      if first = '0' then afterZeros? first rest
      else if first.isDigit then some (first :: rest)
      else none

/-- A numeral without its fraction, if that is nothing but zeros. -/
def withoutZeroFraction (numeral : Text) : Text :=
  let fraction := (numeral.dropWhile (· != '.')).drop 1
  if !fraction.isEmpty && fraction.all (· == '0') then numeral.takeWhile (· != '.') else numeral

/-- A numeral without its underscores, where they are well placed: single ones, and
neither first nor last. -/
def ungrouped? (numeral : Text) : Option Text :=
  if numeral.head? = some '_' ∨ numeral.getLast? = some '_' ∨ Text.contains "__" numeral then none
  else some (numeral.filter (· != '_'))

/-- Digits without a leading zero.  Too many of them are refused whatever follows. -/
def plainNatural : Text → Except Complaint Nat
  | ['0'] => .ok 0
  | numeral =>
      let digits := numeral.takeWhile Char.isDigit
      if !(numeral.head?.any isNonzeroDigit) then .error .integerText
      else if Decimal.digitLimit < digits.length then .error .integerTextSize
      else if digits.length = numeral.length then .ok (Decimal.value digits)
      else .error .integerText

def plainInteger : Text → Except Complaint Int
  | '-' :: digits => (plainNatural digits).map fun magnitude => -(magnitude : Int)
  | digits => (plainNatural digits).map Int.ofNat

/-- A numeral without sign as plain digits. -/
def cleaned? (numeral : Text) : Option Text :=
  (withoutLeadingZeros? numeral).map fun significant =>
    let whole := withoutZeroFraction significant
    (ungrouped? whole).getD whole

def integerText (numeral : Text) : Except Complaint Int :=
  let plain (sign numeral : Text) : Except Complaint Int :=
    match cleaned? numeral with
    | some digits => plainInteger (sign ++ digits)
    | none => .error .integerText
  match numeral with
  | '-' :: magnitude => plain "-" magnitude
  | '+' :: magnitude => plain [] magnitude
  | magnitude => plain [] magnitude

/-- A double without fraction as a whole number. -/
def wholeReal? (value : Float) : Option Int :=
  (Binary64.ofFloat? value).bind fun parts =>
    let (numerator, denominator) := parts.ratio
    if numerator % denominator = 0 then
      let magnitude : Int := numerator / denominator
      some (if parts.negative then -magnitude else magnitude)
    else none

/-- Doubles stand for whole numbers only below this magnitude. -/
def wordBound : Nat := Nat.pow 2 63

def integer (input : Datum) : Checked Int :=
  match input with
  | .integer value => .valid value
  | .truth value => .valid (if value then 1 else 0)
  | .real value =>
      if value.isNaN || value.isInf then Complaint.notFinite.raise input
      else
        match wholeReal? value with
        | some whole =>
            if whole.natAbs < wordBound then .valid whole
            else Complaint.integerTextSize.raise input
        | none => Complaint.integerFraction.raise input
  | .text value =>
      match integerText (value.trim isPadding) with
      | .ok whole => .valid whole
      | .error complaint => complaint.raise input
  | _ => Complaint.integerType.raise input

def trueWords : List Text := ["1", "on", "t", "true", "y", "yes"]

def falseWords : List Text := ["0", "off", "f", "false", "n", "no"]

def truth (input : Datum) : Checked Bool :=
  match input with
  | .truth value => .valid value
  | .integer value =>
      if value = 0 then .valid false
      else if value = 1 then .valid true
      else if -wordBound ≤ value ∧ value < wordBound then Complaint.truthText.raise input
      else Complaint.truthType.raise input
  | .real value =>
      match wholeReal? value with
      | some 0 => .valid false
      | some 1 => .valid true
      | some whole =>
          if whole.natAbs < wordBound then Complaint.truthText.raise input
          else Complaint.truthType.raise input
      | none => Complaint.truthType.raise input
  | .text value =>
      if trueWords.contains value.lower then .valid true
      else if falseWords.contains value.lower then .valid false
      else Complaint.truthText.raise input
  | _ => Complaint.truthType.raise input

def text (input : Datum) : Checked Text :=
  match input with
  | .text value => .valid value
  | _ => Complaint.textType.raise input

def real (input : Datum) : Checked Float :=
  match input with
  | .real value => .valid value
  | .integer value =>
      let magnitude := Binary64.nearest value.natAbs 1
      if Binary64.overflowThreshold ≤ value.natAbs then Complaint.realType.raise input
      else .valid (if value < 0 then -magnitude else magnitude)
  | .truth value => .valid (if value then 1 else 0)
  | .text value =>
      match (Binary64.ofNumeral? (value.trim isPadding)).or
          (if value.elem '_' then (ungrouped? value).bind Binary64.ofNumeral? else none) with
      | some number => .valid number
      | none => Complaint.realText.raise input
  | _ => Complaint.realType.raise input

/-- Null stands for the absence of a value. -/
def optional (read : Datum → Checked α) (input : Datum) : Checked (Option α) :=
  match input with
  | .null => .valid none
  | present => (read present).map some

def itemsFrom (read : Datum → Checked α) (position : Nat) : List Datum → List (Checked α)
  | [] => []
  | item :: rest =>
      (read item).below (Decimal.natural position) :: itemsFrom read (position + 1) rest

def list (read : Datum → Checked α) (input : Datum) : Checked (List α) :=
  match input with
  | .list items => Checked.all (itemsFrom read 0 items)
  | _ => Complaint.listType.raise input

def atLeast (bound : Int) (input : Datum) (value : Int) : Checked Int :=
  if value < bound then (Complaint.atLeast bound).raise input else .valid value

/-- The bounds are checked from below, and only the first one broken is reported. -/
def integerBetween (least greatest : Int) (input : Datum) : Checked Int :=
  match integer input with
  | .invalid issues => .invalid issues
  | .valid value =>
      if value < least then (Complaint.atLeast least).raise input
      else if greatest < value then (Complaint.atMost greatest).raise input
      else .valid value

def integerFrom (least : Int) (input : Datum) : Checked Int :=
  match integer input with
  | .invalid issues => .invalid issues
  | .valid value => atLeast least input value

def required (name : Text) (read : Datum → Checked α) (fields : List (Text × Datum)) :
    Checked α :=
  match Datum.field? name fields with
  | some input => (read input).below name
  | none => (Complaint.missing.raise (.object fields)).below name

def defaulted (name : Text) (absent : α) (read : Datum → Checked α)
    (fields : List (Text × Datum)) : Checked α :=
  match Datum.field? name fields with
  | some input => (read input).below name
  | none => .valid absent

/-- A set of fields as a whole. -/
def fields (name : Text) (read : List (Text × Datum) → Checked α) (input : Datum) : Checked α :=
  match input with
  | .object entries => read entries
  | _ => (Complaint.objectType name).raise input

end Validation

end SchemaSeed
