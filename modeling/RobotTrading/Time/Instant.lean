/-!
# Instants

An `Instant` is a point on the UTC time line: whole seconds since
1970-01-01T00:00:00Z and a nanosecond part. A nanosecond part of a second or
more marks a leap second: `23:59:60.5` is second `23:59:59` with
`1_500_000_000` nanoseconds. Instants are ordered by seconds, then nanoseconds,
so a leap second falls between the second before it and the next minute.

Calendar dates use the proleptic Gregorian calendar. `Instant.render` writes
`YYYY-MM-DDTHH:MM:SS` in UTC with a `Z`, and a fraction of three, six or nine
digits when the nanoseconds need them; a leap second is written as second 60.

## Main definitions

* `Instant` and its order.
* `daysFromCivil`, `civilFromDays` : the day number of a date and back.
* `Instant.render` : the UTC text of an instant.
-/

namespace RobotTrading

/-- A UTC instant: seconds since the Unix epoch and nanoseconds, at least a second of them
    during a leap second. -/
structure Instant where
  /-- Whole seconds since 1970-01-01T00:00:00Z, leap seconds not counted. -/
  seconds : Int
  /-- Nanoseconds past `seconds`; `10 ^ 9` and more during a leap second. -/
  nanos : Nat
deriving DecidableEq, Inhabited

namespace Instant

/-- Order of instants: seconds first, then nanoseconds. -/
def cmp (a b : Instant) : Ordering :=
  match compare a.seconds b.seconds with
  | .eq => compare a.nanos b.nanos
  | o => o

/-- `a` is not after `b`. -/
def le (a b : Instant) : Bool := a.cmp b != .gt

end Instant

/-- A calendar date. -/
structure CivilDate where
  /-- Proleptic Gregorian year. -/
  year : Int
  /-- Month, `1 ..= 12`. -/
  month : Nat
  /-- Day of the month, `1 ..= 31`. -/
  day : Nat
deriving DecidableEq

/-- Leap years of the Gregorian calendar. -/
def isLeapYear (y : Int) : Bool := (y % 4 == 0 && y % 100 != 0) || y % 400 == 0

/-- The number of days in a month of a year. -/
def daysInMonth (y : Int) (m : Nat) : Nat :=
  if m = 2 then (if isLeapYear y then 29 else 28)
  else if m = 4 ∨ m = 6 ∨ m = 9 ∨ m = 11 then 30
  else 31

/-- Days from 1970-01-01 to a date, counting eras of 400 years. Integer division rounds
    toward negative infinity here, so eras before year zero need no correction. -/
def daysFromCivil (d : CivilDate) : Int :=
  let y : Int := if d.month ≤ 2 then d.year - 1 else d.year
  let era : Int := y / 400
  let yoe : Int := y - era * 400
  let mp : Int := if d.month > 2 then (d.month : Int) - 3 else (d.month : Int) + 9
  let doy : Int := (153 * mp + 2) / 5 + (d.day : Int) - 1
  let doe : Int := yoe * 365 + yoe / 4 - yoe / 100 + doy
  era * 146097 + doe - 719468

/-- The date of a day number. -/
def civilFromDays (z : Int) : CivilDate :=
  let z := z + 719468
  let era : Int := z / 146097
  let doe : Int := z - era * 146097
  let yoe : Int := (doe - doe / 1460 + doe / 36524 - doe / 146096) / 365
  let y : Int := yoe + era * 400
  let doy : Int := doe - (365 * yoe + yoe / 4 - yoe / 100)
  let mp : Int := (5 * doy + 2) / 153
  let d : Int := doy - (153 * mp + 2) / 5 + 1
  let m : Int := if mp < 10 then mp + 3 else mp - 9
  ⟨if m ≤ 2 then y + 1 else y, m.toNat, d.toNat⟩

namespace Instant

/-- At least `width` digits of a natural number, zero padded on the left. -/
def padded (width n : Nat) : String :=
  let ds := Nat.toDigits 10 n
  String.ofList (List.replicate (width - ds.length) '0' ++ ds)

/-- A year in four digits, or with an explicit sign outside `0 ..= 9999`. -/
def yearText (y : Int) : String :=
  if 0 ≤ y ∧ y ≤ 9999 then padded 4 y.toNat
  else (if y < 0 then "-" else "+") ++ padded 4 y.natAbs

/-- The fraction of a second: none, or three, six or nine digits, the fewest that are exact. -/
def fractionText (nanos : Nat) : String :=
  let n := nanos % 1000000000
  if n = 0 then ""
  else if n % 1000000 = 0 then "." ++ padded 3 (n / 1000000)
  else if n % 1000 = 0 then "." ++ padded 6 (n / 1000)
  else "." ++ padded 9 n

/-- The UTC text of an instant, with a `Z`. -/
def render (t : Instant) : String :=
  let days := t.seconds / 86400
  let secs := (t.seconds % 86400).toNat
  let date := civilFromDays days
  let leap := if t.nanos ≥ 1000000000 then 1 else 0
  yearText date.year ++ "-" ++ padded 2 date.month ++ "-" ++ padded 2 date.day ++ "T" ++
    padded 2 (secs / 3600) ++ ":" ++ padded 2 (secs % 3600 / 60) ++ ":" ++
    padded 2 (secs % 60 + leap) ++ fractionText t.nanos ++ "Z"

end Instant

end RobotTrading
