import SchemaSeed.Validation

/-! What became of one table. -/

namespace SchemaSeed

structure TableResult where
  table : Text
  requested : Int
  written : Int
  mode : Text
  success : Bool
  generationSeconds : Float
  insertSeconds : Float
  error : Option Text

namespace TableResult

def ofFields (fields : List (Text × Datum)) : Checked TableResult :=
  TableResult.mk <$>
    Validation.required "table_name" Validation.text fields <*>
    Validation.required "rows_requested" Validation.integer fields <*>
    Validation.defaulted "rows_written" 0 Validation.integer fields <*>
    Validation.defaulted "mode" "random" Validation.text fields <*>
    Validation.defaulted "success" false Validation.truth fields <*>
    Validation.defaulted "generation_seconds" 0 Validation.real fields <*>
    Validation.defaulted "insert_seconds" 0 Validation.real fields <*>
    Validation.defaulted "error" none (Validation.optional Validation.text) fields

end TableResult

end SchemaSeed
