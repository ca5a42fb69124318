import SchemaSeed.Random.Twister

/-! Where the random numbers of a run come from.  The entropy of the system cannot be
seeded, so asking for it wins over any seed. -/

namespace SchemaSeed

namespace Random

inductive Origin where
  | seeded (seed : Int)
  | unseeded
  | system
deriving Repr, DecidableEq

namespace Origin

def choose (seed : Option Int) (secure : Bool) : Origin :=
  if secure then .system
  else
    match seed with
    | some seed => .seeded seed
    | none => .unseeded

/-- The generator of an origin, given one that nobody can foresee. -/
def twister (unforeseen : Twister) : Origin → Twister
  | .seeded seed => Twister.ofSeed seed
  | .unseeded | .system => unforeseen

end Origin

end Random

end SchemaSeed
