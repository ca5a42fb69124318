import SchemaSeed.Binary64
import SchemaSeed.Random.Source

/-! A source that follows a script: a list of numbers, taken in turn and over again,
each reduced to the range that is asked for. -/

namespace SchemaSeed

structure Script where
  draws : Array Int
  taken : Nat := 0

namespace Script

def next (script : Script) : Int × Script :=
  (script.draws.getD (script.taken % script.draws.size) 0,
    { script with taken := script.taken + 1 })

def source : RandomSource Script where
  between low high script :=
    let (draw, script) := script.next
    (low + draw % (high - low + 1), script)
  fraction script :=
    let (draw, script) := script.next
    (Binary64.nearest (draw % Nat.pow 2 53).toNat (Nat.pow 2 53), script)
  position count script :=
    let (draw, script) := script.next
    ((draw % count).toNat, script)
  nothing script := (.remainderByZero, script.next.2)

end Script

end SchemaSeed
