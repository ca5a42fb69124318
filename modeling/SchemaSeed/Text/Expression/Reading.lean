import Std.Data.HashMap
import SchemaSeed.Text.Expression.Grammar

/-! Reads expressions as the grammar says.  What cannot be read is read a second time with
the rules that find out what is wrong. -/

namespace SchemaSeed

namespace Expression

/-- What is known while an expression is read: the outcomes that are kept, and how many
tokens have been looked at. -/
structure Memory where
  outcomes : Std.HashMap (Rule × Nat) (Option (Tree × Nat)) := {}
  seen : Nat := 0

abbrev Reads := ExceptT Problem (StateM Memory)

/-- What stays the same while an expression is read. -/
structure Reader where
  tokens : Tokens
  readField : Text → Except Problem Unit
  diagnoses : Bool := false

namespace Reader

/-- The token at a position; where there is none, what stops the tokens is the problem. -/
def token (reader : Reader) (position : Nat) : Reads Placed := do
  modify fun memory => { memory with seen := max memory.seen (position + 1) }
  match reader.tokens.read[position]? with
  | some placed => return placed
  | none => throw (reader.tokens.stop.getD .malformed)

/-- What a list of items has come to: its parts and the position after them, or that no
other alternative may be tried. -/
inductive Outcome
  | matched (parts : List Tree) (position : Nat)
  | failed (committed : Bool)

mutual
/-- A rule at a position: its tree and the position after it.  `fuel` bounds the depth. -/
def rule (reader : Reader) (rule : Rule) (position : Nat) :
    (fuel : Nat) → Reads (Option (Tree × Nat))
  | 0 => throw .malformed
  | fuel + 1 => do
      if rule.isDiagnostic && !reader.diagnoses then return none
      let memory ← get
      match (if rule.isKept then memory.outcomes[(rule, position)]? else none) with
      | some outcome => return outcome
      | none =>
          let reader :=
            if rule = .plainExpression then { reader with diagnoses := false } else reader
          let first ← reader.token position
          let outcome ← match rule.body with
            | .choice alternatives => reader.choose [] first.line position alternatives fuel
            | .chain alternatives continuations => do
                match ← reader.choose [] first.line position alternatives fuel with
                | none => pure none
                | some (tree, after) =>
                    reader.extend tree first.line after continuations fuel
          if rule.isKept then
            modify fun memory =>
              { memory with outcomes := memory.outcomes.insert (rule, position) outcome }
          return outcome
termination_by structural fuel => fuel

/-- The first alternative that matches.  `before` has been read already. -/
def choose (reader : Reader) (before : List Tree) (line position : Nat) :
    List Alternative → (fuel : Nat) → Reads (Option (Tree × Nat))
  | _, 0 => throw .malformed
  | [], _ => return none
  | alternative :: rest, fuel + 1 => do
      match ← reader.items before.reverse false position alternative.items fuel with
      | .failed true => return none
      | .failed false => reader.choose before line position rest fuel
      | .matched parts after =>
          let last ← reader.token (after - 1)
          match alternative.build ⟨line, last.depth, reader.readField⟩ parts with
          | .error problem => throw problem
          | .ok tree => return tree.map fun tree => (tree, after)
termination_by structural _ fuel => fuel

/-- A tree with all continuations that match. -/
def extend (reader : Reader) (tree : Tree) (line position : Nat)
    (continuations : List Alternative) : (fuel : Nat) → Reads (Option (Tree × Nat))
  | 0 => throw .malformed
  | fuel + 1 => do
      match ← reader.choose [tree] line position continuations fuel with
      | some (tree, after) => reader.extend tree line after continuations fuel
      | none => return some (tree, position)
termination_by structural fuel => fuel

/-- Items one after the other.  `parts` are those before, last one first. -/
def items (reader : Reader) (parts : List Tree) (committed : Bool) (position : Nat) :
    List Item → (fuel : Nat) → Reads Outcome
  | _, 0 => throw .malformed
  | [], _ => return .matched parts.reverse position
  | .committed :: rest, fuel + 1 => reader.items parts true position rest fuel
  | item :: rest, fuel + 1 => do
      match ← reader.item position item fuel with
      | none => return .failed committed
      | some (tree, after) => reader.items (tree :: parts) committed after rest fuel
termination_by structural _ fuel => fuel

def item (reader : Reader) (position : Nat) :
    Item → (fuel : Nat) → Reads (Option (Tree × Nat))
  | _, 0 => throw .malformed
  | .rule rule, fuel + 1 => reader.rule rule position fuel
  | .optional item, fuel + 1 => do
      let outcome ← reader.item position item fuel
      return some (outcome.getD (.absent, position))
  | .many item, fuel + 1 => reader.repeated [] position [item] fuel
  | .oneOrMore item, fuel + 1 => do
      match ← reader.item position item fuel with
      | none => return none
      | some (tree, after) => reader.repeated [tree] after [item] fuel
  | .separated item, fuel + 1 => do
      match ← reader.item position item fuel with
      | none => return none
      | some (tree, after) => reader.repeated [tree] after [.mark ",", item] fuel
  | .anyOf candidates, fuel + 1 => reader.anyOf position candidates fuel
  | .sequence members, fuel + 1 => do
      match ← reader.items [] false position members fuel with
      | .matched parts after => return some (.several parts, after)
      | .failed _ => return none
  | .notBefore item next, fuel + 1 => do
      match ← reader.item position item fuel with
      | none => return none
      | some (tree, after) =>
          return if (← reader.item after next fuel).isSome then none else some (tree, after)
  | .ahead item, fuel + 1 => do
      return (← reader.item position item fuel).map fun _ => (.absent, position)
  | .notAhead item, fuel + 1 => do
      return if (← reader.item position item fuel).isSome then none else some (.absent, position)
  | .committed, _ + 1 => return some (.absent, position)
  | single, _ + 1 => do
      let placed ← reader.token position
      return if single.accepts placed.token then some (.token placed, position + 1) else none
termination_by structural _ fuel => fuel

/-- The first item that matches. -/
def anyOf (reader : Reader) (position : Nat) :
    List Item → (fuel : Nat) → Reads (Option (Tree × Nat))
  | _, 0 => throw .malformed
  | [], _ => return none
  | item :: rest, fuel + 1 => do
      match ← reader.item position item fuel with
      | some outcome => return some outcome
      | none => reader.anyOf position rest fuel
termination_by structural _ fuel => fuel

/-- The same items as often as they match.  `members` are those before, last one first. -/
def repeated (reader : Reader) (members : List Tree) (position : Nat) (unit : List Item) :
    (fuel : Nat) → Reads (Option (Tree × Nat))
  | 0 => throw .malformed
  | fuel + 1 => do
      match ← reader.items [] false position unit fuel with
      | .matched parts after =>
          reader.repeated (.several parts :: members) after unit fuel
      | .failed _ => return some (.several members.reverse, position)
termination_by structural fuel => fuel
end

/-- The depth that reading takes at most for each token. -/
def depthPerToken : Nat := 256

/-- What comes first where a problem is found.  Characters that are no token come first,
and so does a bracket of an earlier line that was never closed. -/
def overruled (reader : Reader) (seen : Nat) (problem : Problem) : Problem :=
  let tokens := reader.tokens
  match tokens.stop with
  | none => problem
  | some stop =>
      if stop.isLexical then stop
      else
        match tokens.opened, tokens.read[seen - 1]? with
        | some (bracket, line), some placed =>
            if line < placed.line then .neverClosed bracket else problem
        | _, _ => problem

/-- What a problem of reading comes to.  Nothing overrules it once the end is known. -/
def settle (reader : Reader) (seen : Nat) (problem : Problem) : Problem :=
  let tokens := reader.tokens
  if tokens.read.size < seen ∨ tokens.read.size = seen ∧ tokens.knowsEnd then problem
  else reader.overruled seen problem

/-- The problem where none is known in particular.  A deeper indentation cannot be read. -/
def unknownProblem (reader : Reader) (first seen : Nat) : Problem :=
  match reader.tokens.read[first - 1]? with
  | some ⟨.indent, _, _⟩ => .unexpectedIndent
  | _ => reader.overruled seen .malformed

/-- Reads from a rule on, if need be twice. -/
def read (reader : Reader) (start : Rule) : Except Problem Tree :=
  let fuel := depthPerToken * (reader.tokens.read.size + 2)
  match (reader.rule start 0 fuel).run {} with
  | (.ok (some (tree, _)), _) => .ok tree
  | (.error problem, memory) => .error (reader.settle memory.seen problem)
  | (.ok none, memory) =>
      match ({ reader with diagnoses := true }.rule start 0 fuel).run { seen := memory.seen } with
      | (.error problem, memory) => .error (reader.settle memory.seen problem)
      | (.ok _, again) => .error (reader.unknownProblem memory.seen again.seen)

end Reader

/-- Reads an expression that stands in braces within a text, in brackets of its own.
`fuel` bounds how deep such expressions stand in one another. -/
def readField : (fuel : Nat) → Text → Except Problem Unit
  | 0, _ => .error .malformed
  | fuel + 1, text =>
      let tokens := Tokens.ofText ('(' :: text ++ [')'])
      match Reader.read { tokens := tokens, readField := readField fuel } .field with
      | .ok _ => .ok ()
      | .error problem => .error (if problem.isLexical then problem else .inField problem)

/-- Reads an expression. -/
def read (text : Text) : Except Problem Tree :=
  Reader.read { tokens := Tokens.ofText text, readField := readField text.length } .whole

end Expression

end SchemaSeed
