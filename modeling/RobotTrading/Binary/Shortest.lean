import RobotTrading.Binary.Basic

/-!
# Shortest digits of a binary64 value

The shortest text of a binary64 value has the fewest significant digits that
round back to the same value, of those the nearest to it (the larger of two
equally near), and is written positionally without an exponent.

## Main definitions

* `Binary.shortest` : the shortest digits of a nonzero binary64 value.
* `Binary.positional` : the positional text of `c * 10 ^ x`.
* `Binary.text` : the shortest positional text of a value, `0` for zero.
-/

namespace RobotTrading

-- Powers of naturals and integers are the core ones (`Nat.pow`, `Int.pow`), also where a
-- larger library brings its own.
attribute [local instance (high)] instPowNat

namespace Binary

/-- The number of decimal digits of a positive natural number. -/
def digitCount (n : Nat) : Nat := (Nat.toDigits 10 n).length

/-- Strip trailing zero digits, raising the exponent for each. -/
def stripZeros (c : Nat) (x : Int) : Nat × Int :=
  let k := ((List.range (digitCount c)).filter fun k => c % 10 ^ k = 0).foldl max 0
  (c / 10 ^ k, x + k)

/-- The shortest digits of a nonzero binary64 value: `(c, x)` with `c * 10 ^ x` the decimal
    of fewest significant digits that rounds back to the value, the nearer of two
    candidates and the larger on a tie, and `c` without trailing zeros.

    The value is `N * 10 ^ (-E)` exactly. Everything is compared at four times that unit:
    the value is `4 * N`, the reals that round to it reach up by half a gap and down by half
    the gap below, which is half as wide at a power of two; the ends count when the
    significand is even. -/
def shortest (b : Binary) : Nat × Int :=
  let e : Nat := if b.power < 0 then b.power.natAbs else 0
  let n : Nat := if b.power < 0 then b.significand * 5 ^ e else b.significand * 2 ^ b.power.natAbs
  let gap : Nat := if b.power < 0 then 5 ^ e else 2 ^ b.power.natAbs
  let v := 4 * n
  let up := 2 * gap
  let down := if b.significand = 2 ^ (52 : Nat) ∧ minPower < b.power then gap else 2 * gap
  let closed := b.significand % 2 = 0
  let inside : Nat → Bool := fun x =>
    if closed then v ≤ x + down && x ≤ v + up else v < x + down && x < v + up
  let len := digitCount n
  let pick : Nat → Option (Nat × Int) := fun k =>
    let p := len - k
    let lo := n / 10 ^ p
    let hi := lo + 1
    let xlo := 4 * lo * 10 ^ p
    let xhi := 4 * hi * 10 ^ p
    let place : Int := (p : Int) - e
    match inside xlo, inside xhi with
    | true, true =>
      if v - xlo < xhi - v then some (lo, place) else some (hi, place)
    | true, false => some (lo, place)
    | false, true => some (hi, place)
    | false, false => none
  let found := (List.range len).findSome? fun k => pick (k + 1)
  let (c, x) := found.getD (n, -(e : Int))
  stripZeros c x

/-- The positional text of `c * 10 ^ x`: trailing zeros for a nonnegative exponent, else a
    point with leading zeros as needed. -/
def positional (c : Nat) (x : Int) : String :=
  let digits := Nat.toDigits 10 c
  if 0 ≤ x then String.ofList (digits ++ List.replicate x.natAbs '0')
  else
    let k := x.natAbs
    let padded := List.replicate (k + 1 - digits.length) '0' ++ digits
    String.ofList (padded.take (padded.length - k) ++ '.' :: padded.drop (padded.length - k))

/-- The shortest positional text of a value: `0` for zero. -/
def text (b : Binary) : String :=
  if b.significand = 0 then "0"
  else
    let (c, x) := shortest b
    positional c x

end Binary

end RobotTrading
