import SchemaSeed.Column
import SchemaSeed.Sql.Group
import SchemaSeed.Sql.Pattern

/-! From the declaration of a column to its category: the first keyword that occurs
in the name of its type decides. -/

namespace SchemaSeed

namespace Column

/-- Keywords that occur inside longer ones come after those. -/
def typeKeywords : List (Text × Category) := [
  ("BIGINT", .int64),
  ("TINYINT", .int8),
  ("SMALLINT", .int16),
  ("MEDIUMINT", .int24),
  ("INT", .int32),
  ("DECIMAL", .decimal),
  ("FLOAT", .float32),
  ("DOUBLE", .float64),
  ("CHAR", .character),
  ("VARCHAR", .character),
  ("TEXT", .character),
  ("TINYTEXT", .character),
  ("MEDIUMTEXT", .character),
  ("LONGTEXT", .character),
  ("ENUM", .enumeration),
  ("DATETIME", .datetime),
  ("DATE", .date),
  ("TIME", .time)]

def matchKeyword (typeName : Text) : Option (Text × Category) :=
  let upper := typeName.upper
  typeKeywords.find? fun (keyword, _) => Text.contains keyword upper

/-- The quoted name with which a declaration starts, and the rest of it. -/
def splitName (declaration : Text) : Option Text × Text :=
  match Sql.quotedName? declaration.skipBlanks with
  | some (name, rest) => (some name, Text.skipBlanks rest)
  | none => (none, declaration.strip)

def isTypeCharacter (character : Char) : Bool :=
  character.isAlpha || character == '_'

/-- The name of the type with which `text` starts, and the position after it. -/
def typeName? (text : Text) : Option (Text × Nat) :=
  let rest := text.skipBlanks
  let name := rest.takeWhile isTypeCharacter
  if name.isEmpty then none else some (name, text.length - rest.length + name.length)

/-- The digits of a length in parentheses with which `text` starts. -/
def lengthDigits (text : Text) : Text :=
  match text.skipBlanks with
  | '(' :: inside => (Text.skipBlanks inside).takeWhile Character.isDecimalDigit
  | _ => []

/-- The declared length; zero when there is none. -/
def declaredLength (text : Text) : Except Fault Nat :=
  let digits := lengthDigits text
  if Decimal.digitLimit < digits.length then .error (.numeralTooLong digits.length)
  else .ok (Decimal.value digits)

def isStringQuote (character : Char) : Bool :=
  character == '\'' || character == '"'

/-- A member of an enumeration without blanks and quotes around it. -/
def member (written : Text) : Text :=
  (Text.strip written).trim isStringQuote

/-- The members between the first parentheses at or after position `start`. -/
def membersFrom (declaration : Text) (start : Nat) : Except Fault (List Text) :=
  match Sql.findGroup declaration start with
  | .error fault => .error fault
  | .ok none => .ok []
  | .ok (some group) =>
      let inside := declaration.slice (group.opening + 1) group.closing
      if inside.strip.isEmpty then .ok []
      else (Sql.splitTop "," inside).map (·.map member)

/-- The column of a category, given its declaration and where the type name ends. -/
def ofCategory (name : Text) (unsigned : Bool) (declaration : Text) (typeEnd : Nat)
    (category : Category) : Except Fault Column :=
  if category.isTemporal then .ok ⟨name, some category, none, false, []⟩
  else
    match declaredLength (declaration.drop typeEnd) with
    | .error fault => .error fault
    | .ok length =>
        match category with
        | .enumeration =>
            match membersFrom declaration typeEnd with
            | .error fault => .error fault
            | .ok [] => .ok (unsupported name unsigned)
            | .ok members => .ok ⟨name, some .enumeration, some 0, unsigned, members⟩
        | .character =>
            .ok ⟨name, some .character, some (if length = 0 then defaultLength else length),
              unsigned, []⟩
        | _ => .ok ⟨name, some category, some length, unsigned, []⟩

def classify (definition : Text) : Except Fault Column :=
  let (name, declaration) := splitName definition
  let unsigned := Sql.mentionsUnsigned declaration
  let found := (typeName? declaration).bind fun (typeName, typeEnd) =>
    (matchKeyword typeName).map fun (_, category) => (category, typeEnd)
  match found with
  | none => .ok (unsupported (name.getD []) unsigned)
  | some (category, typeEnd) =>
      ofCategory (name.getD []) unsigned declaration typeEnd category

end Column

end SchemaSeed
