import SchemaSeed.Column.Classify
import SchemaSeed.Proofs.Text.Words
import SchemaSeed.Table

/-! Tables as they are meant to be declared, the text that declares them, and the table
that a reader should find in it.  Whatever can be put together here can be written down:
the parts carry the proofs that their characters do not break the text around them. -/

namespace SchemaSeed

namespace Declaration

/-- What may stand between backticks. -/
structure Name where
  text : Text
  nonempty : text ≠ []
  known : ∀ character ∈ text, Sql.isNameCharacter character = true

def Name.quoted (name : Name) : Text :=
  Sql.backtick :: name.text ++ [Sql.backtick]

theorem Name.forall_quoted {property : Char → Prop} (name : Name)
    (tick : property Sql.backtick)
    (known : ∀ character, Sql.isNameCharacter character = true → property character) :
    ∀ character ∈ name.quoted, property character := by
  intro character member
  rcases List.mem_append.mp member with front | last
  · rcases List.mem_cons.mp front with rfl | inside
    · exact tick
    · exact known character (name.known character inside)
  · rw [List.mem_singleton.mp last]
    exact tick

/-- A length in decimal digits, as long as it can still be converted. -/
structure Numeral where
  zeros : Nat
  value : Nat
  within : zeros + (Decimal.natural value).length ≤ Decimal.digitLimit

def Numeral.digits (numeral : Numeral) : Text :=
  List.replicate numeral.zeros '0' ++ Decimal.natural numeral.value

/-- The name of a type other than that of enumerations. -/
structure Keyword where
  text : Text
  category : Category
  known : (text, category) ∈ Column.typeKeywords
  other : text ≠ "ENUM"

/-- A member of an enumeration.  It may hold commas, parentheses and whatever else has a
meaning outside of quotes. -/
structure Member where
  text : Text
  unquoted : ∀ character ∈ text, character ≠ '\'' ∧ character ≠ '"' ∧ character ≠ '\\'
  isolated : text.IsolatedSpaces
  noMarker : Sql.occurs Sql.tableMarker? text = false
  noEngine : Sql.occurs Sql.engineClause? text = false
  noUnsigned : Sql.mentionsUnsigned text = false

def Member.literal (member : Member) : Text :=
  '\'' :: member.text ++ ['\'']

theorem Member.closed (member : Member) :
    ∀ character ∈ member.text, character ≠ '\'' ∧ character ≠ '\\' := by
  intro character found
  rcases member.unquoted character found with ⟨noSingle, -, noBackslash⟩
  exact ⟨noSingle, noBackslash⟩

/-- The type of a column. -/
inductive Kind where
  | typed (keyword : Keyword) (length : Option Numeral) (unsigned : Bool)
  | enumeration (first : Member) (others : List Member)

namespace Kind

def lengthText : Option Numeral → Text
  | none => []
  | some numeral => '(' :: numeral.digits ++ [')']

/-- The end of every declaration. -/
def tail (unsigned : Bool) : Text :=
  if unsigned then " UNSIGNED NOT NULL" else " NOT NULL"

def membersText (first : Member) (others : List Member) : Text :=
  Text.join "," ((first :: others).map (·.literal))

theorem membersText_singleton (member : Member) : membersText member [] = member.literal :=
  Text.join_singleton _ _

theorem membersText_cons (first second : Member) (others : List Member) :
    membersText first (second :: others) =
      first.literal ++ ',' :: membersText second others := by
  simp [membersText]

def text : Kind → Text
  | typed keyword length unsigned => keyword.text ++ lengthText length ++ tail unsigned
  | enumeration first others =>
      "ENUM" ++ '(' :: membersText first others ++ ')' :: tail false

def unsigned : Kind → Bool
  | typed _ _ unsigned => unsigned
  | enumeration _ _ => false

def members : Kind → List Member
  | typed _ _ _ => []
  | enumeration first others => first :: others

/-- Character types without length, or of length zero, hold 255 characters. -/
def columnLength (category : Category) (length : Option Numeral) : Nat :=
  let declared := (length.map (·.value)).getD 0
  if category = .character ∧ declared = 0 then 255 else declared

/-- The column that a kind of declaration stands for. -/
def column (name : Text) : Kind → Column
  | typed keyword length unsigned =>
      if keyword.category.isTemporal then ⟨name, some keyword.category, none, false, []⟩
      else ⟨name, some keyword.category, some (columnLength keyword.category length), unsigned, []⟩
  | enumeration first others =>
      ⟨name, some .enumeration, some 0, false, (first :: others).map (·.text)⟩

end Kind

structure Field where
  name : Name
  kind : Kind

def Field.text (field : Field) : Text :=
  field.name.quoted ++ ' ' :: field.kind.text

def Field.column (field : Field) : Column :=
  field.kind.column field.name.text

end Declaration

/-- A table, its primary key and its other columns. -/
structure Declaration where
  name : Declaration.Name
  primaryKey : Declaration.Name
  fields : List Declaration.Field
  distinct : ∀ field ∈ fields, field.name.text ≠ primaryKey.text

namespace Declaration

variable (declaration : Declaration)

def keyField : Text :=
  declaration.primaryKey.quoted ++ " INT NOT NULL"

def keyClause : Text :=
  "PRIMARY KEY " ++ '(' :: declaration.primaryKey.quoted ++ [')']

def items : List Text :=
  declaration.keyField :: (declaration.fields.map (·.text) ++ [declaration.keyClause])

theorem forall_items {property : Text → Prop} (inKey : property declaration.keyField)
    (inFields : ∀ field ∈ declaration.fields, property field.text)
    (inClause : property declaration.keyClause) :
    ∀ item ∈ declaration.items, property item := by
  intro item member
  rcases List.mem_cons.mp member with rfl | member
  · exact inKey
  · rcases List.mem_append.mp member with fromField | isClause
    · rcases List.mem_map.mp fromField with ⟨field, found, rfl⟩
      exact inFields field found
    · rw [List.mem_singleton.mp isClause]
      exact inClause

def head : Text :=
  "CREATE TABLE " ++ declaration.name.quoted

/-- The declaration without the options of the table. -/
def statement : Text :=
  declaration.head ++ " (" ++ Text.join ", " declaration.items ++ ") "

def text : Text :=
  declaration.statement ++ "ENGINE=InnoDB;"

/-- The table that a declaration stands for. -/
def table : Table :=
  ⟨declaration.name.text, declaration.primaryKey.text, declaration.fields.map (·.column)⟩

end Declaration

end SchemaSeed
