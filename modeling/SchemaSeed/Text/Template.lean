import SchemaSeed.Text.Template.Directive

/-! Message templates.  A per-cent sign starts a directive, which takes the next
argument, or a named field of a single object, and says how to write it: flags, a
least width, a precision and a conversion letter.  Two per-cent signs stand for one. -/

namespace SchemaSeed

namespace Template

/-- Where directives find arguments by name: among the fields of an object, or nowhere,
which items of a list count as too, for they have positions but no names. -/
inductive Named
  | absent
  | positions
  | fields (entries : List (Text × Datum))

/-- What directives take their arguments from, in turn or by name. -/
structure Supply where
  pending : List Datum
  named : Named

namespace Supply

/-- A single value is the argument of every directive that names none. -/
def ofValue : Datum → Supply
  | .object fields => ⟨[.object fields], .fields fields⟩
  | .list items => ⟨[.list items], .positions⟩
  | other => ⟨[other], .absent⟩

/-- A single object that is not empty gives its fields as arguments. -/
def ofItems : List Datum → Supply
  | [.object (field :: fields)] => ofValue (.object (field :: fields))
  | items => ⟨items, .absent⟩

def take (supply : Supply) : Except Problem (Datum × Supply) :=
  match supply.pending with
  | item :: rest => .ok (item, { supply with pending := rest })
  | [] => .error .tooFewArguments

/-- Makes a named field the only argument at hand. -/
def select (name : Text) (supply : Supply) : Except Problem Supply :=
  match supply.named with
  | .absent => .error .needsFields
  | .positions => .error .needsPosition
  | .fields entries =>
      match Datum.field? name entries with
      | some value => .ok { supply with pending := [value] }
      | none => .error (.unknownField name)

/-- Arguments given in turn must all be taken. -/
def isUsedUp (supply : Supply) : Bool :=
  match supply.named with
  | .absent => supply.pending.isEmpty
  | _ => true

end Supply

/-! Parts of a directive.  Each reader answers what it read, the text after it, and
the arguments that are left. -/

/-- A name up to its closing parenthesis, in which parentheses are balanced. -/
def name? (depth : Nat) (read : Text) : Text → Option (Text × Text)
  | [] => none
  | character :: rest =>
      if character = ')' then
        if depth = 0 then some (read.reverse, rest)
        else name? (depth - 1) (character :: read) rest
      else if character = '(' then name? (depth + 1) (character :: read) rest
      else name? depth (character :: read) rest

def field (text : Text) (supply : Supply) : Except Problem (Text × Supply) :=
  match text with
  | '(' :: rest =>
      match supply.named, name? 0 [] rest with
      | .absent, _ => .error .needsFields
      | _, none => .error .incompleteField
      | _, some (name, after) => (supply.select name).map fun supply => (after, supply)
  | _ => .ok (text, supply)

def flags (directive : Directive) : Text → Directive × Text
  | [] => (directive, [])
  | character :: rest =>
      match directive.withFlag? character with
      | some directive => flags directive rest
      | none => (directive, character :: rest)

/-- A number in digits, or the next argument where an asterisk stands for it. -/
inductive Amount where
  | absent
  | written (value : Nat)
  | taken (value : Int)

def amount (text : Text) (supply : Supply) : Except Problem (Amount × Text × Supply) :=
  match text with
  | '*' :: rest =>
      match supply.take with
      | .error problem => .error problem
      | .ok (argument, supply) =>
          match Directive.whole? argument with
          | some value => .ok (.taken value, rest, supply)
          | none => .error .takenAmountNotWhole
  | _ =>
      let digits := text.takeWhile Char.isDigit
      .ok (if digits.isEmpty then .absent else .written (Decimal.value digits),
        text.drop digits.length, supply)

def greatestWidth : Nat := Nat.pow 2 63 - 1

def greatestPrecision : Nat := Nat.pow 2 31 - 1

/-- A negative width that was taken from an argument aligns to the left. -/
def withWidth (directive : Directive) : Amount → Except Problem Directive
  | .absent => .ok directive
  | .written value =>
      if greatestWidth < value then .error .widthTooBig
      else .ok { directive with width := value }
  | .taken value =>
      if greatestWidth < value.natAbs then .error .takenWidthTooBig
      else
        .ok { directive with
          width := value.natAbs
          leftAligned := directive.leftAligned || value < 0 }

def withPrecision (directive : Directive) : Amount → Except Problem Directive
  | .absent => .ok { directive with precision := some 0 }
  | .written value =>
      if greatestPrecision < value then .error .precisionTooBig
      else .ok { directive with precision := some value }
  | .taken value =>
      if greatestPrecision < value.natAbs then .error .takenPrecisionTooBig
      else .ok { directive with precision := some value.toNat }

def precision (directive : Directive) (text : Text) (supply : Supply) :
    Except Problem (Directive × Text × Supply) :=
  match text with
  | '.' :: rest => do
      let (amount, after, supply) ← amount rest supply
      let directive ← withPrecision directive amount
      return (directive, after, supply)
  | _ => .ok (directive, text, supply)

/-- A letter for the size of a number has no effect. -/
def skipSize : Text → Text
  | size :: rest => if size ∈ ['h', 'l', 'L'] then rest else size :: rest
  | [] => []

/-- A directive after its per-cent sign, written with its argument, and what is left
of a template of `total` characters. -/
def directive (total : Nat) (text : Text) (supply : Supply) :
    Except Problem (Text × Text × Supply) := do
  let (afterField, supply) ← field text supply
  let (directive, afterFlags) := flags {} afterField
  let (width, afterWidth, supply) ← amount afterFlags supply
  let directive ← withWidth directive width
  let (directive, afterPrecision, supply) ← precision directive afterWidth supply
  match skipSize afterPrecision with
  | [] => .error .incomplete
  | letter :: after =>
      let (argument, supply) ← supply.take
      let written ← directive.write letter (total - after.length - 1) argument
      return (written, after, supply)

/-- Fills a template from left to right.  `fuel` bounds the number of characters
still to be read. -/
def fillFrom (total : Nat) (supply : Supply) (filled : Text) :
    (fuel : Nat) → Text → Except Problem (Text × Supply)
  | 0, _ => .ok (filled.reverse, supply)
  | _, [] => .ok (filled.reverse, supply)
  | fuel + 1, '%' :: '%' :: rest => fillFrom total supply ('%' :: filled) fuel rest
  | fuel + 1, '%' :: rest =>
      match directive total rest supply with
      | .error problem => .error problem
      | .ok (written, after, supply) =>
          fillFrom total supply (written.reverse ++ filled) fuel after
  | fuel + 1, character :: rest => fillFrom total supply (character :: filled) fuel rest

def fill (template : Text) (supply : Supply) : Except Problem Text :=
  match fillFrom template.length supply [] template.length template with
  | .error problem => .error problem
  | .ok (filled, supply) => if supply.isUsedUp then .ok filled else .error .unusedArguments

end Template

end SchemaSeed
