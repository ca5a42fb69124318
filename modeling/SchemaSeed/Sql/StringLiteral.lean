import SchemaSeed.Sql.Scan

/-! String literals in single or double quotes.  Inside, a backslash takes the
next character along and a doubled quote stands for one; where doubling leaves
the literal open, the first of the two quotes closes it instead. -/

namespace SchemaSeed

namespace Sql

/-- How many characters follow an opening quote up to and including the one that
closes it. -/
def closing? (quote : Char) : Text → Option Nat
  | [] => none
  | '\\' :: [] => none
  | '\\' :: _ :: rest => (closing? quote rest).map (· + 2)
  | character :: [] => if character = quote then some 1 else none
  | character :: next :: rest =>
      if character ≠ quote then (closing? quote (next :: rest)).map (· + 1)
      else if next ≠ quote then some 1
      else
        match closing? quote rest with
        | some later => some (later + 2)
        | none => some 1

/-- The length of the string literal with which a text starts. -/
def literalLength? : Text → Option Nat
  | [] => none
  | character :: rest =>
      if character = '\'' ∨ character = '"' then (closing? character rest).map (· + 1) else none

/-- Masks literals, the first `skipped` characters being part of one already
masked. -/
def maskFrom (skipped : Nat) : Text → Text
  | [] => []
  | character :: rest =>
      match skipped with
      | remaining + 1 => maskFrom remaining rest
      | 0 =>
          match literalLength? (character :: rest) with
          | some length => '\'' :: '\'' :: maskFrom (length - 1) rest
          | none => character :: maskFrom 0 rest

/-- The text with every string literal replaced by the empty one. -/
def mask (text : Text) : Text :=
  maskFrom 0 text

end Sql

end SchemaSeed
