/-!
# Exact decimals

A `Decimal` is a sign, a magnitude and a scale, and stands for
`± magnitude / 10 ^ scale`. The magnitude has at most 96 bits and the scale is
at most 28, so the representable values are exactly those of a 96-bit
coefficient with up to 28 fraction digits. The sign is its own field, so there
is a negative zero; it compares equal to zero.

The representation keeps the scale: `1.50` and `1.5` are different decimals
with the same value. Order and equality of values are given by `Decimal.cmp`,
which compares the cross-multiplied mantissas.

## Main definitions

* `Decimal` : sign, magnitude, scale and their bounds.
* `Decimal.mantissa` : the signed coefficient.
* `Decimal.ofSigned?` : the decimal with a given sign, magnitude and scale, if both fit.
* `Decimal.ofParts?` : the decimal with a given mantissa and scale, if both fit.
* `Decimal.ofInt?` : an integer at scale zero.
* `Decimal.cmp` : comparison of values.
* `Decimal.aligned` : the mantissa of a decimal rewritten at a larger scale.
-/

namespace RobotTrading

-- Powers of naturals and integers are the core ones (`Nat.pow`, `Int.pow`), also where a
-- larger library brings its own.
attribute [local instance (high)] instPowNat

/-- Mantissas are strictly below `2 ^ 96` in magnitude. -/
def mantissaBound : Nat := 2 ^ (96 : Nat)

/-- Scales range over `0 ..= 28`. -/
def maxScale : Nat := 28

/-- A decimal number `± magnitude / 10 ^ scale` with a 96-bit magnitude and a scale of at
    most 28. The sign is kept apart from the magnitude, so a zero may carry a minus sign:
    rounding a tiny negative value, or a sum of opposites, keeps the sign it had. -/
structure Decimal where
  /-- The sign: set for negative values and for a negative zero. -/
  negative : Bool
  /-- The magnitude of the coefficient. -/
  magnitude : Nat
  /-- The number of fraction digits. -/
  scale : Nat
  /-- The coefficient fits 96 bits. -/
  magnitude_lt : magnitude < mantissaBound
  /-- The scale is at most 28. -/
  scale_le : scale ≤ maxScale
deriving DecidableEq

namespace Decimal

/-- The signed coefficient; both zeros give `0`. -/
def mantissa (d : Decimal) : Int := if d.negative then -(d.magnitude : Int) else d.magnitude

/-- The decimal with the given sign, magnitude and scale, when both fit; a zero keeps the
    sign it is given. -/
def ofSigned? (negative : Bool) (n : Nat) (s : Nat) : Option Decimal :=
  if hm : n < mantissaBound then
    if hs : s ≤ maxScale then some ⟨negative, n, s, hm, hs⟩ else none
  else none

/-- The decimal with the given mantissa and scale, when both are in range. A zero is
    positive. -/
def ofParts? (m : Int) (s : Nat) : Option Decimal := ofSigned? (m < 0) m.natAbs s

/-- Zero at scale zero. -/
def zero : Decimal := ⟨false, 0, 0, by decide, by decide⟩

/-- One half: coefficient 5 at scale 1. -/
def oneHalf : Decimal := ⟨false, 5, 1, by decide, by decide⟩

/-- An integer at scale zero, when it fits 96 bits. -/
def ofInt? (i : Int) : Option Decimal := ofParts? i 0

/-- A natural number below `2 ^ 64`, which always fits. -/
def ofNat64 (n : Nat) (h : n < 2 ^ (64 : Nat)) : Decimal :=
  ⟨false, n, 0, Nat.lt_of_lt_of_le h (Nat.pow_le_pow_right (by decide) (by decide)), by decide⟩

/-- The mantissa rewritten at scale `t`; meaningful when `d.scale ≤ t`. -/
def aligned (d : Decimal) (t : Nat) : Int := d.mantissa * 10 ^ (t - d.scale)

/-- Comparison of values: both mantissas are brought to the larger scale. The two zeros
    compare equal. -/
def cmp (a b : Decimal) : Ordering :=
  let t := max a.scale b.scale
  compare (a.aligned t) (b.aligned t)

/-- The value is zero, whatever its sign. -/
def isZero (d : Decimal) : Bool := d.magnitude == 0

/-- The value is strictly positive. -/
def isPos (d : Decimal) : Bool := 0 < d.mantissa

/-- The value is strictly negative. -/
def isNeg (d : Decimal) : Bool := d.mantissa < 0

/-- `a` is at most `b` as a value. -/
def le (a b : Decimal) : Bool := a.cmp b != .gt

/-- `a` is strictly below `b` as a value. -/
def lt (a b : Decimal) : Bool := a.cmp b == .lt

/-- The same magnitude with the opposite sign; a zero changes sign too. -/
def neg (d : Decimal) : Decimal := { d with negative := !d.negative }

theorem mantissa_natAbs (d : Decimal) : d.mantissa.natAbs = d.magnitude := by
  unfold mantissa; split <;> simp

theorem ofParts?_mantissa {m : Int} {s : Nat} {d : Decimal} (h : ofParts? m s = some d) :
    d.mantissa = m ∧ d.scale = s := by
  unfold ofParts? ofSigned? at h
  split at h
  · split at h
    · cases h
      refine ⟨?_, rfl⟩
      unfold mantissa
      by_cases hm : m < 0
      · simp only [hm, decide_true, if_true]
        omega
      · simp only [hm, decide_false, Bool.false_eq_true, if_false]
        omega
    · cases h
  · cases h

theorem aligned_self (d : Decimal) : d.aligned d.scale = d.mantissa := by
  simp [aligned]

end Decimal

end RobotTrading
