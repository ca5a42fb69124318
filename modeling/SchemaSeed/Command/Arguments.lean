import SchemaSeed.Path
import SchemaSeed.Validation

/-! The command line as commands.  Options and arguments may come in any order; an
option given twice takes its last value, and whatever does not fit is a usage
error, for which there is no command.  Words are taken apart as `click` documents it, on
which `typer` stands: the value of an option follows as the next word, behind an equals
sign, or right behind a single letter; a flag has a name for each of its values; and two
hyphens end the options. -/

namespace SchemaSeed

namespace Command

/-- Settings of a run that the command line overrides. -/
structure Overrides where
  rowCount : Option Int := none
  randomized : Option Bool := none
  low : Option Int := none
  high : Option Int := none
  seed : Option Int := none
  dryRun : Option Bool := none
  strict : Option Bool := none
  jsonLogs : Option Bool := none
deriving Repr, DecidableEq

/-- A path with a null character in it cannot be looked up, whatever the command. -/
inductive Invocation where
  | unusablePath
  | info
  | inspect (schema : Text)
  | fill (schema : Option Text) (overrides : Overrides)
deriving Repr, DecidableEq

/-! Whole numbers may be surrounded by white space, signed, and grouped by single
underscores; digits of every script count. -/

def groupedDigits? (afterDigit : Bool) : Text → Option Text
  | [] => if afterDigit then some [] else none
  | character :: rest =>
      if Character.isDecimalDigit character then
        (groupedDigits? true rest).map (character :: ·)
      else if character = '_' ∧ afterDigit then groupedDigits? false rest
      else none

def magnitude? (numeral : Text) : Option Nat :=
  (groupedDigits? false numeral).bind fun digits =>
    if Decimal.digitLimit < digits.length then none else some (Decimal.value digits)

def integer? (written : Text) : Option Int :=
  match written.trim Validation.isPadding with
  | '-' :: numeral => (magnitude? numeral).map fun magnitude => -(magnitude : Int)
  | '+' :: numeral => (magnitude? numeral).map Int.ofNat
  | numeral => (magnitude? numeral).map Int.ofNat

/-! Options. -/

/-- Options that take a whole number. -/
inductive Valued
  | rowCount
  | low
  | high
  | seed
deriving Repr, DecidableEq

def valuedOptions : List (Text × Valued) := [
  ("--rows", .rowCount), ("--low-char", .low), ("--high-char", .high), ("--seed", .seed)]

/-- Options of one letter. -/
def letterOptions : List (Char × Valued) := [('r', .rowCount)]

/-- Options that take no value. -/
inductive Flag
  | randomized (value : Bool)
  | dryRun (value : Bool)
  | strict (value : Bool)
  | jsonLogs (value : Bool)
deriving Repr, DecidableEq

def flagOptions : List (Text × Flag) := [
  ("--random", .randomized true), ("--fixed", .randomized false),
  ("--debug", .dryRun true), ("--no-debug", .dryRun false),
  ("--strict-types", .strict true), ("--lenient-types", .strict false),
  ("--json-logs", .jsonLogs true), ("--text-logs", .jsonLogs false)]

namespace Overrides

def setValue (overrides : Overrides) (value : Int) : Valued → Overrides
  | .rowCount => { overrides with rowCount := some value }
  | .low => { overrides with low := some value }
  | .high => { overrides with high := some value }
  | .seed => { overrides with seed := some value }

def setFlag (overrides : Overrides) : Flag → Overrides
  | .randomized value => { overrides with randomized := some value }
  | .dryRun value => { overrides with dryRun := some value }
  | .strict value => { overrides with strict := some value }
  | .jsonLogs value => { overrides with jsonLogs := some value }

end Overrides

/-- The words of a command line once the options are taken out, and the values given
to options, in order. -/
structure Arguments where
  words : List Text
  values : List (Valued × Text)
  flags : List Flag

namespace Arguments

def empty : Arguments := ⟨[], [], []⟩

def addWord (word : Text) (arguments : Arguments) : Arguments :=
  { arguments with words := word :: arguments.words }

def addValue (option : Valued) (value : Text) (arguments : Arguments) : Arguments :=
  { arguments with values := (option, value) :: arguments.values }

def addFlag (flag : Flag) (arguments : Arguments) : Arguments :=
  { arguments with flags := flag :: arguments.flags }

end Arguments

def lookup? [BEq α] (name : α) (entries : List (α × β)) : Option β :=
  (entries.find? (·.1 == name)).map (·.2)

/-- Sorts words into options and arguments.  After two hyphens alone, every word is
an argument. -/
def arguments? : List Text → Option Arguments
  | [] => some Arguments.empty
  | word :: rest =>
      let name := word.takeWhile (· != '=')
      match word with
      | ['-', '-'] => some ⟨rest, [], []⟩
      | '-' :: letter :: attached =>
          match lookup? word flagOptions with
          | some flag => (arguments? rest).map (·.addFlag flag)
          | none =>
              match lookup? name valuedOptions with
              | some option =>
                  if name.length < word.length then
                    (arguments? rest).map (·.addValue option (word.drop (name.length + 1)))
                  else
                    match rest with
                    | value :: rest => (arguments? rest).map (·.addValue option value)
                    | [] => none
              | none =>
                  match lookup? letter letterOptions with
                  | some option =>
                      if attached.isEmpty then
                        match rest with
                        | value :: rest => (arguments? rest).map (·.addValue option value)
                        | [] => none
                      else (arguments? rest).map (·.addValue option attached)
                  | none => none
      | _ => (arguments? rest).map (·.addWord word)

def overrideValues? (overrides : Overrides) : List (Valued × Text) → Option Overrides
  | [] => some overrides
  | (option, written) :: rest =>
      match integer? written with
      | some value => overrideValues? (overrides.setValue value option) rest
      | none => none

/-- The command that takes one path, if no further words follow it.  The path is looked
at before them. -/
def withPath (path : Text) (rest : List Text) (invocation : Invocation) : Option Invocation :=
  if Path.holdsNull path then some .unusablePath
  else if rest.isEmpty then some invocation
  else none

/-- The command that the words after the name of the fill command ask for.  Only the
last value of an option is read. -/
def fillInvocation? (words : List Text) : Option Invocation :=
  (arguments? words).bind fun arguments =>
    let last (option : Valued) : List (Valued × Text) :=
      (arguments.values.filter (·.1 == option)).getLast?.toList
    let values := [Valued.rowCount, .low, .high, .seed].flatMap last
    (overrideValues? {} values).bind fun overrides =>
      let overrides := arguments.flags.foldl Overrides.setFlag overrides
      match arguments.words with
      | [] => some (.fill none overrides)
      | schema :: rest => withPath schema rest (.fill (some schema) overrides)

/-- Words without any option among them. -/
def plainWords? : List Text → Option (List Text)
  | [] => some []
  | word :: rest =>
      match word with
      | ['-', '-'] => some rest
      | '-' :: _ :: _ => none
      | _ => (plainWords? rest).map (word :: ·)

/-- The command of a whole command line. -/
def invocation? (words : List Text) : Option Invocation :=
  let words := match words with
    | ['-', '-'] :: rest => rest
    | other => other
  match words with
  | [] => none
  | name :: rest =>
      if name = "info" then
        match plainWords? rest with
        | some [] => some .info
        | _ => none
      else if name = "inspect" then
        match plainWords? rest with
        | some (schema :: rest) => withPath schema rest (.inspect schema)
        | _ => none
      else if name = "fill" then fillInvocation? rest
      else none

end Command

end SchemaSeed
