import SchemaSeed.Column

/-! A table as read from its declaration.  The columns are those that values may be
generated for, in declaration order; the primary key is not among them. -/

namespace SchemaSeed

structure Table where
  name : Text
  primaryKey : Text
  columns : List Column
deriving Repr, DecidableEq

namespace Table

def generated (table : Table) : List Column :=
  table.columns.filter (·.isSupported)

def unsupported (table : Table) : List Column :=
  table.columns.filter (!·.isSupported)

def ofFields (fields : List (Text × Datum)) : Checked Table :=
  Table.mk <$>
    Validation.required "name" Validation.text fields <*>
    Validation.required "primary_key" Validation.text fields <*>
    Validation.defaulted "columns" []
      (Validation.list (Validation.fields "ColumnDefinition" Column.ofFields)) fields

end Table

end SchemaSeed
