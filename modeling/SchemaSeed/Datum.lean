import SchemaSeed.Decimal.Shortest
import SchemaSeed.Text.Quoted

/-! Values whose type is not known beforehand: arguments of failures, fields of
log records, and settings before they are validated.  Fields of an object keep
the order in which they were given.  A value of any other type is known by the name
of its type and by the two texts that are written for it. -/

namespace SchemaSeed

inductive Datum where
  | null
  | truth (value : Bool)
  | integer (value : Int)
  | real (value : Float)
  | text (value : Text)
  | list (items : List Datum)
  | object (fields : List (Text × Datum))
  | thing (typeName plain display : Text)
deriving Inhabited

namespace Datum

/-! The display form tells text apart from everything else by quoting it. -/

mutual
def display : Datum → Text
  | .null => "None"
  | .truth value => if value then "True" else "False"
  | .integer value => Decimal.integer value
  | .real value => Decimal.ofFloat value
  | .text value => value.quoted
  | .list items => "[" ++ Text.join ", " (displayItems items) ++ "]"
  | .object fields => "\x7b" ++ Text.join ", " (displayFields fields) ++ "\x7d"
  | .thing _ _ display => display

def displayItems : List Datum → List Text
  | [] => []
  | item :: rest => item.display :: displayItems rest

def displayFields : List (Text × Datum) → List Text
  | [] => []
  | (name, value) :: rest => (name.quoted ++ ": " ++ value.display) :: displayFields rest
end

/-- The form in which a value is put into a sentence: text as it is, the rest as
displayed. -/
def plain : Datum → Text
  | .text value => value
  | .thing _ plain _ => plain
  | other => other.display

/-- Several values as one group in parentheses. -/
def displayGroup : List Datum → Text
  | [single] => "(" ++ single.display ++ ",)"
  | items => "(" ++ Text.join ", " (displayItems items) ++ ")"

def typeName : Datum → Text
  | .null => "NoneType"
  | .truth _ => "bool"
  | .integer _ => "int"
  | .real _ => "float"
  | .text _ => "str"
  | .list _ => "list"
  | .object _ => "dict"
  | .thing typeName _ _ => typeName

/-! Whole numbers beyond a limit are not written, nor is anything that holds one. -/

mutual
def isWritable : Datum → Bool
  | .integer value => !Decimal.isTooLong value
  | .list items => areWritable items
  | .object fields => haveWritableValues fields
  | _ => true

def areWritable : List Datum → Bool
  | [] => true
  | item :: rest => item.isWritable && areWritable rest

def haveWritableValues : List (Text × Datum) → Bool
  | [] => true
  | (_, value) :: rest => value.isWritable && haveWritableValues rest
end

/-- Whether a value counts as present: neither nothing, nor zero, nor empty. -/
def isPresent : Datum → Bool
  | .null => false
  | .truth value => value
  | .integer value => value != 0
  | .real value => value != 0
  | .text value => !value.isEmpty
  | .list items => !items.isEmpty
  | .object fields => !fields.isEmpty
  | .thing .. => true

/-- The value of the last field of that name. -/
def field? (name : Text) : List (Text × Datum) → Option Datum
  | [] => none
  | (found, value) :: rest =>
      match field? name rest with
      | some later => some later
      | none => if found = name then some value else none

end Datum

/-! Lists of named values in insertion order. -/

namespace Fields

/-- Gives `name` a value: in place if the name is there, at the end if not. -/
def set {α : Type u} (name : Text) (value : α) : List (Text × α) → List (Text × α)
  | [] => [(name, value)]
  | (found, old) :: rest =>
      if found = name then (found, value) :: rest else (found, old) :: set name value rest

def get? {α : Type u} (name : Text) : List (Text × α) → Option α
  | [] => none
  | (found, value) :: rest => if found = name then some value else get? name rest

@[simp] theorem get?_set_same {α : Type u} (name : Text) (value : α)
    (fields : List (Text × α)) : get? name (set name value fields) = some value := by
  induction fields with
  | nil => simp [set, get?]
  | cons field rest induction =>
      by_cases equal : field.1 = name
      · simp [set, get?, equal]
      · simp [set, get?, equal, induction]

theorem get?_set_other {α : Type u} {name other : Text} (different : other ≠ name)
    (value : α) (fields : List (Text × α)) :
    get? other (set name value fields) = get? other fields := by
  induction fields with
  | nil => simp [set, get?, Ne.symm different]
  | cons field rest induction =>
      by_cases equal : field.1 = name
      · have elsewhere : field.1 ≠ other := fun same => different (same ▸ equal)
        simp [set, get?, equal, Ne.symm different]
      · by_cases same : field.1 = other
        · simp [set, get?, same, different]
        · simp [set, get?, equal, same, induction]

end Fields

end SchemaSeed
