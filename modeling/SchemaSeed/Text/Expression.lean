import SchemaSeed.Text.Expression.Reading
import SchemaSeed.Text.Utf8

/-! Expressions that stand for literal values: numbers, texts, the named constants, and
groups of such values in brackets.  Whether an expression can be read and evaluated is
settled here; its value is of no use to anyone. -/

namespace SchemaSeed

namespace Expression

/-- What matters of a value: whether it is a number, and the type that keeps it from
being a member of a set, if one does. -/
inductive Value
  | real (numeral : Numeral)
  | imaginary
  | hashable
  | unhashable (type : Text)
deriving Repr, DecidableEq

def Value.checkMember : Value → Except Problem Unit
  | .unhashable type => .error (.unhashable type)
  | _ => .ok ()

def refuseNode : Tree → Problem
  | .node kind line _ => .notLiteral (some (kind.label, line))
  | _ => .notLiteral none

/-- The value of a number without a sign. -/
def unsigned : Tree → Except Problem Value
  | .node (.constant (.number .imaginary)) _ _ => .ok .imaginary
  | .node (.constant (.number numeral)) _ _ => .ok (.real numeral)
  | tree => .error (refuseNode tree)

/-- The value of a number with one sign at most. -/
def signed : Tree → Except Problem Value
  | .node (.signed true) _ [operand] => unsigned operand
  | tree => unsigned tree

/-- From here on whole numbers are too large to become real ones. -/
def realLimit : Nat := Nat.pow 2 1024 - Nat.pow 2 970

def isTooLarge : Numeral → Bool
  | .whole value => realLimit ≤ value
  | _ => false

/-- A sum is literal if a real and an imaginary number make it up. -/
def sumValue (tree left right : Tree) : Except Problem Value := do
  let left ← signed left
  let right ← unsigned right
  match left, right with
  | .real numeral, .imaginary => if isTooLarge numeral then throw .tooLarge else return .imaginary
  | _, _ => throw (refuseNode tree)

mutual
/-- The value of a tree, or the first thing that keeps it from having one. -/
def evaluate : Tree → Except Problem Value
  | .node kind line parts =>
      match kind, parts with
      | .constant (.number .imaginary), _ => .ok .imaginary
      | .constant (.number numeral), _ => .ok (.real numeral)
      | .constant _, _ => .ok .hashable
      | .tuple, parts => tupleValue parts
      | .set, parts => do
          checkMembers parts
          return .unhashable "set"
      | .dictionary, parts => do
          checkEntries parts
          return .unhashable "dict"
      | .call, [.node (.name name) _ _] =>
          if name = ("set" : Text) then .ok (.unhashable "set")
          else .error (.notLiteral (some (kind.label, line)))
      | .sum, [left, right] => sumValue (.node kind line parts) left right
      | kind, parts => signed (.node kind line parts)
  | tree => .error (refuseNode tree)

/-- The members of a tuple; the first of them that cannot be in a set keeps it out too. -/
def tupleValue : List Tree → Except Problem Value
  | [] => .ok .hashable
  | member :: rest => do
      let value ← evaluate member
      let others ← tupleValue rest
      match value with
      | .unhashable type => return .unhashable type
      | _ => return others

/-- Each member is put into the set before the next one is evaluated. -/
def checkMembers : List Tree → Except Problem Unit
  | [] => .ok ()
  | member :: rest => do
      (← evaluate member).checkMember
      checkMembers rest

/-- Key and value are evaluated before the key is put into the dictionary. -/
def checkEntries : List Tree → Except Problem Unit
  | [] => .ok ()
  | entry :: rest => do
      checkEntry entry
      checkEntries rest

def checkEntry : Tree → Except Problem Unit
  | .node .entry _ [key, value] => do
      let key ← evaluate key
      let _ ← evaluate value
      key.checkMember
  | tree => .error (refuseNode tree)
end

/-- Why an expression cannot be evaluated, if it cannot. -/
def check (text : Text) : Except Problem Unit :=
  let text := text.dropWhile fun character => character = ' ' ∨ character = '\t'
  if text.elem '\x00' then .error .nullCharacter
  else
    match read (Text.unifyLineEnds text) with
    | .error problem => .error problem
    | .ok tree => (evaluate tree).map fun _ => ()

end Expression

end SchemaSeed
