import SchemaSeed.Fault
import SchemaSeed.Path

/-! The schema document as a file. -/

namespace SchemaSeed

namespace Schema

/-- The text of the file at `path`, of which `content` is what was found there: UTF-8,
with every line end as a line feed. -/
def read (path : Text) (content : Option (List UInt8)) : Except Fault Text :=
  match content with
  | none =>
      if Path.isTooLong (Path.normalize path) then .error (.pathTooLong (Path.normalize path))
      else .error (.schemaFileMissing path)
  | some bytes =>
      match Utf8.decode bytes with
      | .ok text => .ok text.unifyLineEnds
      | .error problem => .error (.undecodable problem)

end Schema

end SchemaSeed
