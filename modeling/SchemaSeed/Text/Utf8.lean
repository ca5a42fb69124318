import SchemaSeed.Text.Quoted
import SchemaSeed.Decimal.Natural

/-! Decoding of UTF-8.  Overlong forms, surrogates and codes beyond the last
plane are refused, and a refusal says which bytes are at fault. -/

namespace SchemaSeed

namespace Utf8

inductive Reason
  | invalidStart
  | invalidContinuation
  | unexpectedEnd
deriving Repr, DecidableEq

/-- The bytes at fault: the first one, its position, and how many belong to it. -/
structure Problem where
  position : Nat
  length : Nat
  byte : UInt8
  reason : Reason
deriving Repr, DecidableEq

def Reason.message : Reason → Text
  | .invalidStart => "invalid start byte"
  | .invalidContinuation => "invalid continuation byte"
  | .unexpectedEnd => "unexpected end of data"

def Problem.message (problem : Problem) : Text :=
  let start := Decimal.natural problem.position
  let place : Text :=
    if problem.length ≤ 1 then
      "byte 0x" ++ Character.hexadecimal 2 problem.byte.toNat ++ " in position " ++ start
    else
      "bytes in position " ++ start ++ "-" ++
        Decimal.natural (problem.position + problem.length - 1)
  "'utf-8' codec can't decode " ++ place ++ ": " ++ problem.reason.message

/-- What a first byte announces: how many bytes follow, its own bits, and the
range allowed for the second byte. -/
structure Lead where
  following : Nat
  bits : Nat
  least : Nat
  greatest : Nat

def Lead.ofByte? (byte : Nat) : Option Lead :=
  if byte < 0x80 then some ⟨0, byte, 0x80, 0xBF⟩
  else if byte < 0xC2 then none
  else if byte < 0xE0 then some ⟨1, byte - 0xC0, 0x80, 0xBF⟩
  else if byte = 0xE0 then some ⟨2, 0, 0xA0, 0xBF⟩
  else if byte = 0xED then some ⟨2, 0xD, 0x80, 0x9F⟩
  else if byte < 0xF0 then some ⟨2, byte - 0xE0, 0x80, 0xBF⟩
  else if byte = 0xF0 then some ⟨3, 0, 0x90, 0xBF⟩
  else if byte < 0xF4 then some ⟨3, byte - 0xF0, 0x80, 0xBF⟩
  else if byte = 0xF4 then some ⟨3, 4, 0x80, 0x8F⟩
  else none

/-- The state of the decoder between two bytes: the characters so far, last
first, and, inside a character, its position, first byte, bytes read, bits read
and what is still expected. -/
structure Pending where
  position : Nat
  byte : UInt8
  read : Nat
  lead : Lead

def decodeOnto (decoded : Text) (position : Nat) (pending : Option Pending) :
    List UInt8 → Except Problem Text
  | [] =>
      match pending with
      | none => .ok decoded.reverse
      | some open_ => .error ⟨open_.position, open_.read, open_.byte, .unexpectedEnd⟩
  | byte :: rest =>
      match pending with
      | none =>
          match Lead.ofByte? byte.toNat with
          | none => .error ⟨position, 1, byte, .invalidStart⟩
          | some lead =>
              if lead.following = 0 then
                decodeOnto (Char.ofNat lead.bits :: decoded) (position + 1) none rest
              else
                decodeOnto decoded (position + 1) (some ⟨position, byte, 1, lead⟩) rest
      | some open_ =>
          if open_.lead.least ≤ byte.toNat ∧ byte.toNat ≤ open_.lead.greatest then
            let bits := 64 * open_.lead.bits + (byte.toNat - 0x80)
            if open_.lead.following ≤ 1 then
              decodeOnto (Char.ofNat bits :: decoded) (position + 1) none rest
            else
              decodeOnto decoded (position + 1)
                (some ⟨open_.position, open_.byte, open_.read + 1,
                  ⟨open_.lead.following - 1, bits, 0x80, 0xBF⟩⟩) rest
          else
            .error ⟨open_.position, open_.read, open_.byte, .invalidContinuation⟩

def decode (bytes : List UInt8) : Except Problem Text :=
  decodeOnto [] 0 none bytes

end Utf8

namespace Text

/-- Every line end as a line feed alone. -/
def unifyLineEndsOnto (unified : Text) : Text → Text
  | [] => unified.reverse
  | '\r' :: '\n' :: rest => unifyLineEndsOnto ('\n' :: unified) rest
  | '\r' :: rest => unifyLineEndsOnto ('\n' :: unified) rest
  | character :: rest => unifyLineEndsOnto (character :: unified) rest

def unifyLineEnds (text : Text) : Text :=
  unifyLineEndsOnto [] text

end Text

end SchemaSeed
