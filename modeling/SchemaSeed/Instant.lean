import SchemaSeed.Decimal.Natural

/-! A local instant, as the columns for dates and times show it. -/

namespace SchemaSeed

structure Instant where
  year : Nat
  month : Nat
  day : Nat
  hour : Nat
  minute : Nat
  second : Nat
deriving Repr, DecidableEq

namespace Instant

def padded (digits number : Nat) : Text :=
  let written := Decimal.natural number
  List.replicate (digits - written.length) '0' ++ written

def date (instant : Instant) : Text :=
  Text.join "-" [padded 4 instant.year, padded 2 instant.month, padded 2 instant.day]

def time (instant : Instant) : Text :=
  Text.join ":" [padded 2 instant.hour, padded 2 instant.minute, padded 2 instant.second]

def dateTime (instant : Instant) : Text :=
  instant.date ++ " " ++ instant.time

end Instant

end SchemaSeed
