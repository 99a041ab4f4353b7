import RobotTrading.Decimal.Basic

/-!
# Decimal arithmetic

Sums, differences and halves of decimals.

A sum is exact at the larger of the two scales whenever that fits 96 bits.
Otherwise fraction digits are dropped, rounding half to even over all dropped
digits, until the coefficient fits; at scale zero the sum overflows. A zero
operand gives back the other operand unchanged, scale and sign included, and
a sum of opposites is a zero with the sign of the first operand.

Halving divides the coefficient by two. An odd coefficient is first scaled up
by as many powers of ten as fit (at most nine, and never past scale 28), which
makes the division exact, and the result then sheds trailing zeros in steps of
four, two and one digits. At scale 28 an odd coefficient rounds half to even.

## Main definitions

* `Decimal.fit?` : an exact coefficient brought within 96 bits.
* `Decimal.add?`, `Decimal.sub?` : sum and difference, `none` on overflow.
* `Decimal.add`, `Decimal.sub` : the same with the overflow named.
* `Decimal.half` : the decimal divided by two.
-/

namespace RobotTrading

-- Powers of naturals and integers are the core ones (`Nat.pow`, `Int.pow`), also where a
-- larger library brings its own.
attribute [local instance (high)] instPowNat

/-- An arithmetic result that does not fit a decimal. -/
inductive Overflow where
  | addition
  | subtraction
deriving DecidableEq

/-- The text of an overflow. -/
def Overflow.message : Overflow → String
  | .addition => "Addition overflowed"
  | .subtraction => "Subtraction overflowed"

namespace Decimal

/-- `n / 10 ^ k` rounded to the nearest integer, a tie going to the even neighbour. -/
def roundHalfEven (n k : Nat) : Nat :=
  let p := 10 ^ k
  let q := n / p
  let r := n % p
  if p < 2 * r ∨ (2 * r = p ∧ q % 2 = 1) then q + 1 else q

/-- The integer with the magnitude `n` and the sign of `m`. -/
def withSignOf (m : Int) (n : Nat) : Int := if m < 0 then -(n : Int) else n

/-- The decimal closest to `m / 10 ^ s` that fits: the fewest fraction digits are dropped,
    each drop rounding half to even over everything dropped. -/
def fit? (m : Int) (s : Nat) : Option Decimal :=
  let k? := (List.range (s + 1)).find? fun k => roundHalfEven m.natAbs k < mantissaBound
  k?.bind fun k => ofParts? (withSignOf m (roundHalfEven m.natAbs k)) (s - k)

/-- The sum of two nonzero decimals at the larger scale, rounded by `fit?` when it does not
    fit; a zero sum keeps the sign of the first operand. -/
def combine? (a b : Decimal) : Option Decimal :=
  let t := max a.scale b.scale
  let m := a.aligned t + b.aligned t
  if m = 0 then ofSigned? a.negative 0 t else fit? m t

/-- The sum of two decimals, or `none` when it overflows. A zero operand gives back the
    other one unchanged. -/
def add? (a b : Decimal) : Option Decimal :=
  if a.isZero then some b
  else if b.isZero then some a
  else combine? a b

/-- The difference of two decimals, or `none` when it overflows. A zero subtracted from
    gives the other operand negated, a zero keeping its sign; a zero subtracted gives the
    first operand back. -/
def sub? (a b : Decimal) : Option Decimal :=
  if a.isZero then some (if b.isZero then b else b.neg)
  else if b.isZero then some a
  else combine? a b.neg

/-- The sum of two decimals, or the overflow. -/
def add (a b : Decimal) : Except Overflow Decimal := (add? a b).elim (.error .addition) .ok

/-- The difference of two decimals, or the overflow. -/
def sub (a b : Decimal) : Except Overflow Decimal := (sub? a b).elim (.error .subtraction) .ok

/-- Drop `k` trailing zero digits when the scale allows it and they are zeros. -/
def shedZeros (k : Nat) (p : Nat × Nat) : Nat × Nat :=
  if k ≤ p.2 ∧ p.1 % 10 ^ k = 0 then (p.1 / 10 ^ k, p.2 - k) else p

/-- The largest power of ten, at most nine and at most `room`, by which `q` can be
    multiplied within 96 bits. -/
def headroom (q room : Nat) : Nat :=
  ((List.range (min 9 room + 1)).filter fun p => q * 10 ^ p < mantissaBound).foldl max 0

/-- Halving a magnitude `n` at scale `s`: the new magnitude and scale. -/
def halfParts (n s : Nat) : Nat × Nat :=
  let q := n / 2
  if n % 2 = 0 then (q, s)
  else
    let p := if s < maxScale then headroom q (maxScale - s) else 0
    if p = 0 then
      -- no room left: a remainder of one half rounds to the even neighbour
      shedZeros 1 (shedZeros 2 (shedZeros 4 (if q % 2 = 1 then q + 1 else q, s)))
    else
      shedZeros 1 (shedZeros 2 (shedZeros 4 (q * 10 ^ p + 5 * 10 ^ (p - 1), s + p)))

/-- The decimal divided by two; any zero halves to the plain zero. -/
def half (d : Decimal) : Decimal :=
  if d.isZero then zero
  else
    let r := halfParts d.mantissa.natAbs d.scale
    (ofParts? (withSignOf d.mantissa r.1) r.2).getD zero

end Decimal

end RobotTrading
