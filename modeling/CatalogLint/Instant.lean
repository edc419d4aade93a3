/-! # Instants

    A moment of universal time, and how it is written as a date and a time of day. -/

namespace CatalogLint

/-- So many nanoseconds since the start of the year 1970. -/
structure Instant where
  nanoseconds : Nat
  deriving DecidableEq, Repr

namespace Instant

/-- A number with zeros before it up to so many digits. -/
def padded (digits value : Nat) : String :=
  let written := toString value
  String.ofList (List.replicate (digits - written.length) '0') ++ written

/-- The year, the month and the day of the day with a number, the first one being the
    start of the year 1970.  Years are counted from March on, so that the day that leap
    years add is the last one; a cycle of 400 years has 146097 days. -/
def dateOf (day : Nat) : Nat × Nat × Nat :=
  let day := day + 719468
  let cycle := day / 146097
  let dayOfCycle := day % 146097
  let yearOfCycle :=
    (dayOfCycle - dayOfCycle / 1460 + dayOfCycle / 36524 - dayOfCycle / 146096) / 365
  let dayOfYear := dayOfCycle - (365 * yearOfCycle + yearOfCycle / 4 - yearOfCycle / 100)
  let monthFromMarch := (5 * dayOfYear + 2) / 153
  let month := if monthFromMarch < 10 then monthFromMarch + 3 else monthFromMarch - 9
  let year := yearOfCycle + 400 * cycle + (if month ≤ 2 then 1 else 0)
  (year, month, dayOfYear - (153 * monthFromMarch + 2) / 5 + 1)

/-- The part of a second, in three, six or nine digits, as many as it needs. -/
def fraction (nanoseconds : Nat) : String :=
  if nanoseconds = 0 then ""
  else if nanoseconds % 1000000 = 0 then "." ++ padded 3 (nanoseconds / 1000000)
  else if nanoseconds % 1000 = 0 then "." ++ padded 6 (nanoseconds / 1000)
  else "." ++ padded 9 nanoseconds

/-- The instant with its date and its time of day, as RFC 3339 has them. -/
def written (instant : Instant) : String :=
  let seconds := instant.nanoseconds / 1000000000
  let (year, month, day) := dateOf (seconds / 86400)
  let ofDay := seconds % 86400
  padded 4 year ++ "-" ++ padded 2 month ++ "-" ++ padded 2 day ++ "T"
    ++ padded 2 (ofDay / 3600) ++ ":" ++ padded 2 (ofDay / 60 % 60) ++ ":"
    ++ padded 2 (ofDay % 60) ++ fraction (instant.nanoseconds % 1000000000) ++ "+00:00"

end Instant

end CatalogLint
