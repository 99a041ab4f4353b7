/-!
# Binary64 magnitudes

A finite binary64 magnitude is a significand `s < 2 ^ 53` and a power `q ≥ -1074`,
standing for `s * 2 ^ q`; zero has significand zero. All arithmetic is exact on
natural numbers and rounds once, to the nearest representable value with a tie
going to the even significand, as an IEEE multiplication or division does. A
result too large to be finite is `none`; a result below half the least
subnormal is zero.

A number literal `sig * 10 ^ exp` becomes a binary64 value the way a streaming
reader computes it: the significand is rounded to binary64 first, then scaled by
one multiplication or division by the binary64 value of `10 ^ |exp|`, dividing
by `10 ^ 308` first while `|exp|` is larger. Each step rounds, so the result may
be one unit away from the value nearest to the literal.

## Main definitions

* `Binary.nearest` : the binary64 value nearest to a nonnegative rational.
* `Binary.mul`, `Binary.div` : rounded product and quotient.
* `Binary.ofScientific` : the value of a literal `sig * 10 ^ exp`, or `none` on overflow.
-/

namespace RobotTrading

-- Powers of naturals and integers are the core ones (`Nat.pow`, `Int.pow`), also where a
-- larger library brings its own.
attribute [local instance (high)] instPowNat

/-- A finite nonnegative binary64 value `significand * 2 ^ power`. -/
structure Binary where
  /-- Below `2 ^ 53`; at least `2 ^ 52` unless the power is the least one. -/
  significand : Nat
  /-- At least `-1074`. -/
  power : Int
deriving Inhabited

namespace Binary

/-- The least power of two of a binary64 value. -/
def minPower : Int := -1074

/-- The largest power of two of a finite binary64 value. -/
def maxPower : Int := 971

/-- Zero. -/
def zero : Binary := ⟨0, minPower⟩

/-- `num / den` divided by `2 ^ q`: quotient and remainder over the adjusted denominator. -/
def scaledDiv (num den : Nat) (q : Int) : Nat × Nat × Nat :=
  let n := if q ≤ 0 then num * 2 ^ q.natAbs else num
  let d := if q ≤ 0 then den else den * 2 ^ q.natAbs
  (n / d, n % d, d)

/-- The binary64 value nearest to the rational `num / den` (`den > 0`), a tie going to the
    even significand; `none` when it is too large to be finite. -/
def nearest (num den : Nat) : Option Binary :=
  if num = 0 then some zero
  else
    let guess : Int := (Nat.log2 num : Int) - (Nat.log2 den : Int) - 53
    let q0 := if (scaledDiv num den guess).1 < 2 ^ (53 : Nat) then guess else guess + 1
    let q := max q0 minPower
    let (s, r, d) := scaledDiv num den q
    let up := d < 2 * r ∨ (2 * r = d ∧ s % 2 = 1)
    let s := if up then s + 1 else s
    let (s, q) := if s = 2 ^ (53 : Nat) then (2 ^ (52 : Nat), q + 1) else (s, q)
    if q > maxPower then none else if s = 0 then some zero else some ⟨s, q⟩

/-- Zero rounds to zero. -/
theorem nearest_zero (den : Nat) : nearest 0 den = some zero := by
  simp [nearest]

/-- The binary64 value nearest to `num / den * 2 ^ shift`. -/
def nearestScaled (num den : Nat) (shift : Int) : Option Binary :=
  if 0 ≤ shift then nearest (num * 2 ^ shift.natAbs) den
  else nearest num (den * 2 ^ shift.natAbs)

/-- The rounded product of two values; `none` when it overflows. -/
def mul (a b : Binary) : Option Binary :=
  nearestScaled (a.significand * b.significand) 1 (a.power + b.power)

/-- The rounded quotient of two values, the divisor nonzero; `none` when it overflows. -/
def div (a b : Binary) : Option Binary :=
  nearestScaled a.significand b.significand (a.power - b.power)

/-- The binary64 value nearest to a natural number. -/
def ofNat (n : Nat) : Option Binary := nearest n 1

/-- Ten to the power `k`, rounded to binary64; finite for `k ≤ 308`. -/
def pow10 (k : Nat) : Binary := (ofNat (10 ^ k)).getD zero

/-- The largest power of ten with a finite binary64 value. -/
def maxPow10 : Nat := 308

/-- Scale `f` by `10 ^ exp`: one rounded multiplication or division when `|exp| ≤ 308`;
    otherwise zero stays zero, a positive power overflows, and a negative one first divides
    by `10 ^ 308`. Two such divisions take any significand of 64 bits to zero, so a fuel of
    four steps always suffices. -/
def scale10 : Nat → Binary → Int → Option Binary
  | 0, f, _ => some f
  | fuel + 1, f, exp =>
    if exp.natAbs ≤ maxPow10 then
      if 0 ≤ exp then mul f (pow10 exp.natAbs) else div f (pow10 exp.natAbs)
    else if f.significand = 0 then some f
    else if 0 ≤ exp then none
    else (div f (pow10 maxPow10)).bind fun g => scale10 fuel g (exp + maxPow10)

/-- The binary64 value of the literal `sig * 10 ^ exp`, computed as `scale10` does from the
    rounded significand; `none` when it is too large to be finite. -/
def ofScientific (sig : Nat) (exp : Int) : Option Binary :=
  (ofNat sig).bind fun f => scale10 4 f exp

end Binary

end RobotTrading
