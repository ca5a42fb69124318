import SchemaSeed.Batch
import SchemaSeed.Log.Record

/-! Where generated rows go.  A destination answers each batch with an outcome, or
raises a fault, and may have log records to pass on. -/

namespace SchemaSeed

structure Outcome where
  success : Bool
  detail : Text
deriving Repr, DecidableEq

structure Delivery where
  outcome : Except Fault Outcome
  records : List Log.Record

structure Destination (State : Type u) where
  name : Text
  deliver : Batch → State → Delivery × State

end SchemaSeed
