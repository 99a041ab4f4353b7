import Mathlib.Algebra.Order.Field.Rat
import Mathlib.Algebra.Order.Ring.Cast
import Mathlib.Tactic.FieldSimp
import Mathlib.Tactic.Positivity
import RobotTrading.Decimal.Basic

/-!
# The value of a decimal

A decimal stands for the rational number `mantissa / 10 ^ scale`. Comparison
of decimals brings both mantissas to the larger scale and compares the
integers; this file shows that it is the order of the rational values, so
facts about the order of decimals are facts about `ℚ`.

## Main definitions

- `Decimal.val` — the rational value of a decimal.

## Main statements

- `Decimal.cmp_eq_compare_val` — `Decimal.cmp` compares values.
-/

namespace RobotTrading

namespace Decimal

/-- The rational number a decimal stands for. Both zeros have value `0`. -/
def val (d : Decimal) : ℚ := d.mantissa / 10 ^ d.scale

/-- A mantissa rewritten at a scale at least its own is the value scaled by that power of ten. -/
theorem aligned_val (d : Decimal) {t : Nat} (h : d.scale ≤ t) :
    ((d.aligned t : ℤ) : ℚ) = d.val * 10 ^ t := by
  have ht : t = (t - d.scale) + d.scale := by omega
  unfold aligned val
  push_cast
  rw [ht, pow_add]
  field_simp
  simp

/-- Comparing two decimals compares their values. -/
theorem cmp_eq_compare_val (a b : Decimal) : a.cmp b = compare a.val b.val := by
  have hmono : StrictMono fun x : ℚ => x * 10 ^ max a.scale b.scale :=
    strictMono_mul_right_of_pos (by positivity)
  have hcast : StrictMono fun x : ℤ => (x : ℚ) := Int.cast_strictMono
  unfold cmp
  -- compare the aligned mantissas as rationals, then divide out the common power of ten
  rw [compare_iff, ← hcast.compares, aligned_val a (le_max_left _ _),
    aligned_val b (le_max_right _ _), hmono.compares, ← compare_iff]

end Decimal

end RobotTrading
