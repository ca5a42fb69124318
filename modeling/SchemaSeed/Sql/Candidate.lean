import SchemaSeed.Sql.Group
import SchemaSeed.Text.Blank

/-! The candidates of a table block: its head, and one per declaration of its
body, each with blanks collapsed and none of them empty. -/

namespace SchemaSeed

namespace Sql

def tidied (pieces : List Text) : List Text :=
  (pieces.map Text.collapse).filter (!·.isEmpty)

def candidates (block : Text) : Except Fault (List Text) :=
  match findGroup block 0 with
  | .error fault => .error fault
  | .ok none => .ok (tidied [block])
  | .ok (some group) =>
      match splitTop "," (block.slice (group.opening + 1) group.closing) with
      | .error fault => .error fault
      | .ok pieces => .ok (tidied (block.take group.opening :: pieces))

end Sql

end SchemaSeed
