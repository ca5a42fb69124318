import SchemaSeed.Text.Basic

/-! A scan of SQL text, one character at a time.  It knows whether it stands in
quoted text, and outside of quotes how many parentheses are open.  A backslash
inside quotes takes the next character along; a closing parenthesis without an
open one is ignored. -/

namespace SchemaSeed

namespace Sql

def backtick : Char := Char.ofNat 96

def isQuote (character : Char) : Bool :=
  character == '\'' || character == '"' || character == backtick

inductive Mode where
  | plain
  | quoted (quote : Char) (escaped : Bool)
deriving Repr, DecidableEq

namespace Mode

def step : Mode → Char → Mode
  | .plain, character => if isQuote character then .quoted character false else .plain
  | .quoted quote true, _ => .quoted quote false
  | .quoted quote false, character =>
      if character = '\\' then .quoted quote true
      else if character = quote then .plain
      else .quoted quote false

/-- The quote that is still open. -/
def quote? : Mode → Option Char
  | .plain => none
  | .quoted quote _ => some quote

end Mode

structure Scan where
  mode : Mode
  depth : Nat
deriving Repr, DecidableEq

namespace Scan

def start : Scan := ⟨.plain, 0⟩

def step (scan : Scan) (character : Char) : Scan :=
  match scan.mode with
  | .quoted .. => ⟨scan.mode.step character, scan.depth⟩
  | .plain =>
      if character = '(' then ⟨.plain, scan.depth + 1⟩
      else if character = ')' then ⟨.plain, scan.depth - 1⟩
      else ⟨Mode.plain.step character, scan.depth⟩

def run (scan : Scan) (text : Text) : Scan :=
  text.foldl step scan

@[simp] theorem run_nil (scan : Scan) : scan.run [] = scan := rfl

@[simp] theorem run_cons (scan : Scan) (character : Char) (text : Text) :
    scan.run (character :: text) = (scan.step character).run text := rfl

@[simp] theorem run_append (scan : Scan) (left right : Text) :
    scan.run (left ++ right) = (scan.run left).run right := by
  simp [run]

/-- Outside quotes and outside parentheses. -/
def isTop (scan : Scan) : Bool :=
  scan.mode == .plain && scan.depth == 0

end Scan

end Sql

end SchemaSeed
