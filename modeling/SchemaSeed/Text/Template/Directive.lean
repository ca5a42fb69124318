import SchemaSeed.Datum
import SchemaSeed.Decimal.Significant
import SchemaSeed.Text.Template.Problem

/-! Directives of a message template, and how each of them writes its argument. -/

namespace SchemaSeed

namespace Template

structure Directive where
  leftAligned : Bool := false
  zeroFilled : Bool := false
  plusSigned : Bool := false
  blankSigned : Bool := false
  alternate : Bool := false
  width : Nat := 0
  precision : Option Nat := none
deriving Repr, DecidableEq

namespace Directive

/-- The directive with what a flag stands for, if the character is one. -/
def withFlag? (directive : Directive) : Char → Option Directive
  | '-' => some { directive with leftAligned := true }
  | '0' => some { directive with zeroFilled := true }
  | '+' => some { directive with plusSigned := true }
  | ' ' => some { directive with blankSigned := true }
  | '#' => some { directive with alternate := true }
  | _ => none

def padded (directive : Directive) (written : Text) : Text :=
  let missing := List.replicate (directive.width - written.length) ' '
  if directive.leftAligned then written ++ missing else missing ++ written

def sign (directive : Directive) (negative : Bool) : Text :=
  if negative then ['-']
  else if directive.plusSigned then ['+']
  else if directive.blankSigned then [' ']
  else []

/-- A number with its sign and the mark of its base.  On request it is padded with
zeros between these and its digits. -/
def number (directive : Directive) (negative : Bool) (mark digits : Text) : Text :=
  let start := directive.sign negative ++ mark
  let zeros :=
    if directive.zeroFilled && !directive.leftAligned then
      List.replicate (directive.width - start.length - digits.length) '0'
    else []
  directive.padded (start ++ zeros ++ digits)

def truncated (directive : Directive) (written : Text) : Text :=
  match directive.precision with
  | some precision => written.take precision
  | none => written

def atLeastPrecision (directive : Directive) (digits : Text) : Text :=
  List.replicate (directive.precision.getD 0 - digits.length) '0' ++ digits

/-! Arguments as numbers. -/

def whole? : Datum → Option Int
  | .integer value => some value
  | .truth value => some (if value then 1 else 0)
  | _ => none

/-- The whole part of a number, whatever its type. -/
def wholePart (letter : Char) (argument : Datum) : Except Problem Int :=
  match argument with
  | .real value =>
      match Binary64.ofFloat? value with
      | some parts =>
          let (numerator, denominator) := parts.ratio
          let magnitude : Int := numerator / denominator
          .ok (if parts.negative then -magnitude else magnitude)
      | none => .error (if value.isNaN then .notANumber else .infinite)
  | other =>
      match whole? other with
      | some value => .ok value
      | none => .error (.needsNumber letter other.typeName)

def real (argument : Datum) : Except Problem Float :=
  match argument with
  | .real value => .ok value
  | other =>
      match whole? other with
      | none => .error (.needsReal other.typeName)
      | some value =>
          if Binary64.overflowThreshold ≤ value.natAbs then .error .tooLargeForReal
          else
            let magnitude := Binary64.nearest value.natAbs 1
            .ok (if value < 0 then -magnitude else magnitude)

/-! Conversions. -/

/-- Characters beyond ASCII as escapes. -/
def asciiOnly (written : Text) : Text :=
  written.flatMap fun character =>
    let code := character.toNat
    if code < 128 then [character]
    else if code < 256 then '\\' :: 'x' :: Character.hexadecimal 2 code
    else if code < 65536 then '\\' :: 'u' :: Character.hexadecimal 4 code
    else '\\' :: 'U' :: Character.hexadecimal 8 code

def writeText (directive : Directive) (form : Datum → Text) (argument : Datum) :
    Except Problem Text :=
  if argument.isWritable then .ok (directive.padded (directive.truncated (form argument)))
  else .error .numberTooLong

def writeDecimal (directive : Directive) (letter : Char) (argument : Datum) :
    Except Problem Text :=
  match wholePart letter argument with
  | .error problem => .error problem
  | .ok value =>
      if Decimal.isTooLong value then .error .numberTooLong
      else
        .ok (directive.number (value < 0) []
          (directive.atLeastPrecision (Decimal.natural value.natAbs)))

/-- A whole number to base eight or sixteen. -/
def writeBase (directive : Directive) (letter : Char) (argument : Datum) :
    Except Problem Text :=
  match whole? argument with
  | some value =>
      let digits := Nat.toDigits (if letter = 'o' then 8 else 16) value.natAbs
      let cased := if letter = 'X' then digits.map Char.toUpper else digits
      let mark : Text := if directive.alternate then ['0', letter] else []
      .ok (directive.number (value < 0) mark (directive.atLeastPrecision cased))
  | none => .error (.needsInteger letter argument.typeName)

/-- The magnitude of a finite number in the notation of that letter. -/
def realDigits (directive : Directive) (letter : Char) (value : Float) (parts : Binary64) :
    Text :=
  let precision := directive.precision.getD 6
  match letter with
  | 'e' | 'E' => Decimal.scientific directive.alternate precision parts
  | 'g' | 'G' => Decimal.general directive.alternate precision parts
  | _ =>
      let written := Decimal.fixed precision value.abs
      if directive.alternate && precision == 0 then written ++ ['.'] else written

def writeReal (directive : Directive) (letter : Char) (argument : Datum) :
    Except Problem Text :=
  match real argument with
  | .error problem => .error problem
  | .ok value =>
      let cased (written : Text) : Text :=
        if letter.isUpper then written.map Char.toUpper else written
      match Binary64.ofFloat? value with
      | some parts =>
          .ok (directive.number parts.negative []
            (cased (directive.realDigits letter value parts)))
      | none =>
          .ok (directive.number (value < 0) [] (cased (if value.isNaN then "nan" else "inf")))

def writeCharacter (directive : Directive) (argument : Datum) : Except Problem Text :=
  match argument with
  | .text [character] => .ok (directive.padded [character])
  | other =>
      match whole? other with
      | some code =>
          if 0 ≤ code ∧ code < 0x110000 then .ok (directive.padded [Char.ofNat code.toNat])
          else .error .noSuchCharacter
      | none => .error .needsCharacter

/-- Writes an argument by the letter of its conversion, which stands at `position`. -/
def write (directive : Directive) (letter : Char) (position : Nat) (argument : Datum) :
    Except Problem Text :=
  match letter with
  | 's' => directive.writeText Datum.plain argument
  | 'r' => directive.writeText Datum.display argument
  | 'a' => directive.writeText (fun argument => asciiOnly argument.display) argument
  | 'd' | 'i' | 'u' => directive.writeDecimal letter argument
  | 'o' | 'x' | 'X' => directive.writeBase letter argument
  | 'e' | 'E' | 'f' | 'F' | 'g' | 'G' => directive.writeReal letter argument
  | 'c' => directive.writeCharacter argument
  | _ => .error (.unknownConversion letter position)

end Directive

end Template

end SchemaSeed
