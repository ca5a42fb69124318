import SchemaSeed.Fault

/-! Columns of a table, as far as generating values for them needs to know. -/

namespace SchemaSeed

inductive Category
  | character
  | int8
  | int16
  | int24
  | int32
  | int64
  | decimal
  | float32
  | float64
  | date
  | datetime
  | time
  | enumeration
deriving Repr, DecidableEq

namespace Category

def all : List Category :=
  [.character, .int8, .int16, .int24, .int32, .int64, .decimal, .float32, .float64,
    .date, .datetime, .time, .enumeration]

def name : Category → Text
  | .character => "character"
  | .int8 => "int8"
  | .int16 => "int16"
  | .int24 => "int24"
  | .int32 => "int32"
  | .int64 => "int64"
  | .decimal => "decimal"
  | .float32 => "float32"
  | .float64 => "float64"
  | .date => "date"
  | .datetime => "datetime"
  | .time => "time"
  | .enumeration => "enumeration"

def isTemporal : Category → Bool
  | .date | .datetime | .time => true
  | _ => false

def ofName? (name : Text) : Option Category :=
  all.find? fun category => category.name == name

/-- The names as alternatives of a sentence. -/
def choices : Text :=
  let quoted := all.map fun category => '\'' :: category.name ++ ['\'']
  Text.join ", " quoted.dropLast ++ " or " ++ quoted.getLastD []

def read (input : Datum) : Checked Category :=
  let complaint : Complaint := ⟨"enum", "Input should be " ++ choices⟩
  match input with
  | .text name =>
      match ofName? name with
      | some category => .valid category
      | none => complaint.raise input
  | _ => complaint.raise input

/-- Every category is read from its own name. -/
theorem read_name (category : Category) : read (.text category.name) = .valid category := by
  cases category <;> rfl

end Category

/-- A column without category is of a type that values cannot be generated for. -/
structure Column where
  name : Text
  category : Option Category
  length : Option Nat
  unsigned : Bool
  members : List Text
deriving Repr, DecidableEq

namespace Column

def isSupported (column : Column) : Bool :=
  column.category.isSome

def quotedName (column : Column) : Text :=
  "`" ++ column.name ++ "`"

/-- The length of a character column that declares none. -/
def defaultLength : Nat := 255

/-- A column whose type is not supported. -/
def unsupported (name : Text) (unsigned : Bool) : Column :=
  ⟨name, none, some 0, unsigned, []⟩

def ofFields (fields : List (Text × Datum)) : Checked Column :=
  (fun name category (length : Option Int) unsigned members =>
      (⟨name, category, length.map Int.toNat, unsigned, members⟩ : Column)) <$>
    Validation.required "name" Validation.text fields <*>
    Validation.defaulted "category" none (Validation.optional Category.read) fields <*>
    Validation.defaulted "length" (some 0)
      (Validation.optional (Validation.integerFrom 0)) fields <*>
    Validation.defaulted "unsigned" false Validation.truth fields <*>
    Validation.defaulted "enum_values" [] (Validation.list Validation.text) fields

end Column

end SchemaSeed
