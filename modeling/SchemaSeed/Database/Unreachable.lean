import SchemaSeed.Database.Connection

/-! A server that cannot be reached: it refuses every connection. -/

namespace SchemaSeed

namespace Database

def refusedNumber : Int := 2003

def unreachable : Server Unit where
  perform action state :=
    match action with
    | .connect parameters =>
        (.error (.failed ⟨.database .operational, [.integer refusedNumber,
          .text ("Can't connect to MySQL server on '" ++ parameters.host ++ "'")], none⟩), state)
    | _ => (.ok 0, state)
  fetch state := (.ok [], state)

end Database

end SchemaSeed
