import RobotTrading.Time.Instant
import RobotTrading.Text.Basic

/-!
# Reading instants

A reader for RFC 3339 date-times in the relaxed form: the date `Y-M-D`, a `T`,
`t` or space, the time `h:m:s` with an optional fraction, and an offset that is
`Z`, `z`, `UTC` or a signed `hh:mm` (the colon may be missing or a space).
Blanks may stand before numbers and around the separators and the offset. A
year without sign has at most four digits; a signed year any number, though
both the local date and the UTC instant must lie within the years -262143 to
262142. Month, day,
hour, minute and second have one or two digits; the fraction keeps its first
nine digits. Second 60 is a leap second.

The result is the UTC instant of the local date-time minus its offset.

## Main definitions

* `Instant.ofText?` : the instant a text denotes, if any.
-/

namespace RobotTrading

-- Powers of naturals and integers are the core ones (`Nat.pow`, `Int.pow`), also where a
-- larger library brings its own.
attribute [local instance (high)] instPowNat

namespace Instant

/-- Leading digits, at least one and at most `width`, with their value. -/
def readDigits (width : Nat) (cs : List Char) : Option (Nat × List Char) :=
  let ds := (cs.takeWhile Char.isDigit).take width
  if ds.isEmpty then none
  else some (ds.foldl (fun n d => n * 10 + (d.toNat - '0'.toNat)) 0, cs.drop ds.length)

/-- A numeric field after optional blanks. -/
def readField (width : Nat) (cs : List Char) : Option (Nat × List Char) :=
  readDigits width (cs.dropWhile Text.isBlank)

/-- A year after optional blanks: an explicit sign allows any number of digits. -/
def readYear (cs : List Char) : Option (Int × List Char) :=
  match cs.dropWhile Text.isBlank with
  | '-' :: rest => (readDigits rest.length rest).map fun (v, r) => (-(v : Int), r)
  | '+' :: rest => (readDigits rest.length rest).map fun (v, r) => ((v : Int), r)
  | rest => (readDigits 4 rest).map fun (v, r) => ((v : Int), r)

/-- A literal character after optional blanks. -/
def readMark (mark : Char) (cs : List Char) : Option (List Char) :=
  match cs.dropWhile Text.isBlank with
  | c :: rest => if c = mark then some rest else none
  | [] => none

/-- The nanoseconds of an optional fraction: up to nine digits count, more are skipped. -/
def readFraction (cs : List Char) : Option (Nat × List Char) :=
  match cs with
  | '.' :: rest =>
    (readDigits 9 rest).map fun (v, r) =>
      let used := (rest.takeWhile Char.isDigit).take 9
      (v * 10 ^ (9 - used.length), r.dropWhile Char.isDigit)
  | _ => some (0, cs)

/-- Two ASCII digits. -/
def readTwo (cs : List Char) : Option (Nat × List Char) :=
  match cs with
  | a :: b :: rest => if a.isDigit ∧ b.isDigit then
      some ((a.toNat - '0'.toNat) * 10 + (b.toNat - '0'.toNat), rest) else none
  | _ => none

/-- A UTC offset in seconds: `Z`, `UTC` in any case, or a sign, two hour digits, an optional
    colon or blanks, and two minute digits below 60. -/
def readOffset (cs : List Char) : Option (Int × List Char) :=
  let cs := cs.dropWhile Text.isBlank
  match cs with
  | 'Z' :: rest => some (0, rest)
  | 'z' :: rest => some (0, rest)
  | a :: b :: c :: rest =>
    if a.toUpper = 'U' ∧ b.toUpper = 'T' ∧ c.toUpper = 'C' then some (0, rest)
    else readSignedOffset cs
  | _ => readSignedOffset cs
where
  /-- The signed `hh:mm` form. -/
  readSignedOffset (cs : List Char) : Option (Int × List Char) := do
    let (negative, rest) ← match cs with
      | '+' :: r => some (false, r)
      | '-' :: r => some (true, r)
      | '−' :: r => some (true, r)
      | _ => none
    let (hours, rest) ← readTwo rest
    let rest := rest.dropWhile fun c => c = ':' ∨ Text.isBlank c
    let (minutes, rest) ← readTwo rest
    if minutes ≥ 60 then none
    let secs : Int := hours * 3600 + minutes * 60
    pure (if negative then -secs else secs, rest)

/-- The first year of the calendar range. -/
def minYear : Int := -262143

/-- The last year of the calendar range. -/
def maxYear : Int := 262142

/-- The first second of the calendar range, in seconds since the epoch. -/
def firstSecond : Int := daysFromCivil ⟨minYear, 1, 1⟩ * 86400

/-- The last second of the calendar range, in seconds since the epoch. -/
def lastSecond : Int := daysFromCivil ⟨maxYear, 12, 31⟩ * 86400 + 86399

/-- The instant a relaxed RFC 3339 text denotes: both its local date-time and the UTC
    instant lie within the years `minYear` to `maxYear`. -/
def ofText? (s : String) : Option Instant := do
  let cs := s.toList
  let (year, cs) ← readYear cs
  let cs ← readMark '-' cs
  let (month, cs) ← readField 2 cs
  let cs ← readMark '-' cs
  let (day, cs) ← readField 2 cs
  let cs ← match cs with
    | c :: rest => if c = 'T' ∨ c = 't' ∨ c = ' ' then some rest else none
    | [] => none
  let (hour, cs) ← readField 2 cs
  let cs ← readMark ':' cs
  let (minute, cs) ← readField 2 cs
  let cs ← readMark ':' cs
  let (second, cs) ← readField 2 cs
  let (nanos, cs) ← readFraction cs
  let (offset, cs) ← readOffset cs
  if !(cs.dropWhile Text.isBlank).isEmpty then none
  if year < minYear ∨ maxYear < year then none
  if month < 1 ∨ 12 < month ∨ day < 1 ∨ daysInMonth year month < day then none
  if 23 < hour ∨ 59 < minute ∨ 60 < second then none
  if 86400 ≤ offset.natAbs then none
  let localSeconds := daysFromCivil ⟨year, month, day⟩ * 86400 + hour * 3600 + minute * 60 + min second 59
  let utc := localSeconds - offset
  if utc < firstSecond ∨ lastSecond < utc then none
  pure ⟨utc, if second = 60 then nanos + 1000000000 else nanos⟩

end Instant

end RobotTrading
