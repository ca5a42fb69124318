import SchemaSeed.Text.Expression.Token

/-! Trees of expressions.  A tree also stands for what is read on the way to one: single
tokens, several trees side by side, and a part that is left out. -/

namespace SchemaSeed

namespace Expression

inductive Constant
  | number (numeral : Numeral)
  | text
  | named (name : Text)
  | ellipsis
deriving Repr, DecidableEq

/-- What a node of a tree is. -/
inductive Kind
  | name (name : Text)
  | constant (constant : Constant)
  | formattedText
  | attribute
  | call
  | arguments
  /-- An argument with a name, or one that stands for many, without one. -/
  | named (isUnpacked : Bool)
  | signed (isSign : Bool)
  | sum
  | product
  | boolean
  | comparison (isMembership : Bool)
  | conditional
  | function
  | tuple
  | set
  | dictionary
  | entry
  | generator
  | setComprehension
  | dictionaryComprehension
  | star
  | assignment
  | yielding
  | yieldingFrom
  | awaiting
deriving Repr, DecidableEq

inductive Tree
  | absent
  | token (placed : Placed)
  | several (members : List Tree)
  | node (kind : Kind) (line : Nat) (parts : List Tree)
deriving Repr

namespace Kind

/-- How a message calls an expression that nothing can be assigned to. -/
def description : Kind → Text
  | .name _ => "name"
  | .constant (.named word) => word
  | .constant .ellipsis => "ellipsis"
  | .constant _ => "literal"
  | .formattedText => "f-string expression"
  | .attribute => "attribute"
  | .call | .arguments | .named _ => "function call"
  | .signed _ | .sum | .product | .boolean => "expression"
  | .comparison _ => "comparison"
  | .conditional => "conditional expression"
  | .function => "lambda"
  | .tuple => "tuple"
  | .set => "set display"
  | .dictionary | .entry => "dict literal"
  | .generator => "generator expression"
  | .setComprehension => "set comprehension"
  | .dictionaryComprehension => "dict comprehension"
  | .star => "starred"
  | .assignment => "named expression"
  | .yielding | .yieldingFrom => "yield expression"
  | .awaiting => "await expression"

/-- How a message calls a node that is no literal. -/
def label : Kind → Text
  | .name _ => "Name"
  | .constant _ => "Constant"
  | .formattedText => "JoinedStr"
  | .attribute => "Attribute"
  | .call | .arguments | .named _ => "Call"
  | .signed _ => "UnaryOp"
  | .sum | .product => "BinOp"
  | .boolean => "BoolOp"
  | .comparison _ => "Compare"
  | .conditional => "IfExp"
  | .function => "Lambda"
  | .tuple => "Tuple"
  | .set => "Set"
  | .dictionary | .entry => "Dict"
  | .generator => "GeneratorExp"
  | .setComprehension => "SetComp"
  | .dictionaryComprehension => "DictComp"
  | .star => "Starred"
  | .assignment => "NamedExpr"
  | .yielding => "Yield"
  | .yieldingFrom => "YieldFrom"
  | .awaiting => "Await"

end Kind

namespace Tree

def description : Tree → Text
  | .node kind _ _ => kind.description
  | _ => []

mutual
/-- The part of an expression that cannot be a target, if there is one.  Of a test for
membership only the left side is one. -/
def obstacle? : Tree → Option Tree
  | .node kind line parts =>
      match kind with
      | .tuple => firstObstacle? parts
      | .star => firstObstacle? parts
      | .comparison isMembership => if isMembership then headObstacle? parts else none
      | .name _ | .attribute => none
      | kind => some (.node kind line parts)
  | _ => none

def firstObstacle? : List Tree → Option Tree
  | [] => none
  | part :: rest => (obstacle? part).or (firstObstacle? rest)

def headObstacle? : List Tree → Option Tree
  | [] => none
  | part :: _ => obstacle? part
end

end Tree

end Expression

end SchemaSeed
