import Mathlib.Tactic.Linarith
import Mathlib.Tactic.Ring
import RobotTrading.Decimal.Arith
import RobotTrading.Proofs.Decimal.Value

/-!
# The value of a decimal sum

A sum of two decimals is computed at the larger of their two scales. When the
exact coefficient at that scale fits 96 bits, the sum is exact. Otherwise
fraction digits are dropped, rounding half to even, until the coefficient fits,
and the sum is then within half a unit of its last digit of the exact sum. A sum
overflows only when the exact sum, rounded to an integer, does not fit 96 bits:
no sum of magnitude below `2 ^ 96 - 1/2` overflows.

## Main statements

- `Decimal.abs_roundHalfEven_sub_le` — rounding half to even is within half a unit.
- `Decimal.val_add?_of_fit?` — a sum is exact as soon as its fitted coefficient is.
- `Decimal.val_add?_of_fits` — a sum whose coefficient fits is exact.
- `Decimal.abs_val_add?_sub_le` — every sum is within half a unit of its last digit.
- `Decimal.le_abs_of_add?_eq_none` — a sum overflows only out of reach.
- `Decimal.scale_add?_le` — a sum is no finer than its operands.
-/

namespace RobotTrading

namespace Decimal

/-! ### Rounding half to even -/

theorem roundHalfEven_zero (n : Nat) : roundHalfEven n 0 = n := by
  simp [roundHalfEven, Nat.mod_one]

/-- Rounding half to even is within half a unit, in integers: the rounded quotient times `10 ^ k`
    is within `10 ^ k / 2` of `n`, on either side. -/
theorem roundHalfEven_half (n k : Nat) :
    2 * (roundHalfEven n k * 10 ^ k) ≤ 2 * n + 10 ^ k ∧
      2 * n ≤ 2 * (roundHalfEven n k * 10 ^ k) + 10 ^ k := by
  have hp : 0 < 10 ^ k := by positivity
  have h := Nat.div_add_mod' n (10 ^ k)
  have hr := Nat.mod_lt n hp
  unfold roundHalfEven
  simp only
  generalize n / 10 ^ k = q at *
  generalize n % 10 ^ k = r at *
  generalize 10 ^ k = p at *
  split
  · -- rounded up: the remainder was at least half of `p`
    rw [Nat.add_mul, Nat.one_mul]
    omega
  · omega

/-- Rounding half to even is within half a unit of the exact quotient. -/
theorem abs_roundHalfEven_sub_le (n k : Nat) :
    |(roundHalfEven n k : ℚ) - n / 10 ^ k| ≤ 1 / 2 := by
  obtain ⟨h₁, h₂⟩ := roundHalfEven_half n k
  have hp : (0 : ℚ) < 10 ^ k := by positivity
  have h₁' : 2 * ((roundHalfEven n k : ℚ) * 10 ^ k) ≤ 2 * n + 10 ^ k := by exact_mod_cast h₁
  have h₂' : 2 * (n : ℚ) ≤ 2 * ((roundHalfEven n k : ℚ) * 10 ^ k) + 10 ^ k := by exact_mod_cast h₂
  have hdiff : (roundHalfEven n k : ℚ) - n / 10 ^ k =
      ((roundHalfEven n k : ℚ) * 10 ^ k - n) / 10 ^ k := by
    field_simp
  rw [hdiff, abs_div, abs_of_pos hp, div_le_iff₀ hp, abs_le]
  constructor <;> linarith

/-! ### Signs and coefficients -/

theorem withSignOf_natAbs (m : Int) : withSignOf m m.natAbs = m := by
  unfold withSignOf
  split <;> omega

/-- A decimal built from a coefficient and a scale stands for their quotient. -/
theorem val_of_ofParts? {m : Int} {s : Nat} {d : Decimal} (h : ofParts? m s = some d) :
    d.val = m / 10 ^ s := by
  obtain ⟨hm, hs⟩ := ofParts?_mantissa h
  rw [val, hm, hs]

theorem ofParts?_isSome {m : Int} {s : Nat} (hm : m.natAbs < mantissaBound) (hs : s ≤ maxScale) :
    (ofParts? m s).isSome := by
  simp [ofParts?, ofSigned?, hm, hs]

theorem val_of_isZero {d : Decimal} (h : d.isZero = true) : d.val = 0 := by
  have hm : d.magnitude = 0 := by simpa [isZero] using h
  simp [val, mantissa, hm]

/-- The coefficient of a sum at a scale at least both operands' is the sum's value at that scale. -/
theorem aligned_add_val (a b : Decimal) :
    ((a.aligned (max a.scale b.scale) + b.aligned (max a.scale b.scale) : Int) : ℚ) =
      (a.val + b.val) * 10 ^ max a.scale b.scale := by
  push_cast
  rw [aligned_val a (le_max_left _ _), aligned_val b (le_max_right _ _), add_mul]

/-- Coefficients that cancel at the larger scale stand for opposite values. -/
theorem val_add_eq_zero {a b : Decimal}
    (hz : a.aligned (max a.scale b.scale) + b.aligned (max a.scale b.scale) = 0) :
    a.val + b.val = 0 := by
  have hm := aligned_add_val a b
  have hp : (0 : ℚ) < 10 ^ max a.scale b.scale := by positivity
  rw [hz] at hm
  push_cast at hm
  exact (mul_eq_zero.1 hm.symm).resolve_right hp.ne'

/-! ### Fitting a coefficient -/

/-- A coefficient that fits is taken as it is. -/
theorem fit?_of_lt {m : Int} {s : Nat} (hm : m.natAbs < mantissaBound) :
    fit? m s = ofParts? m s := by
  have hfind : (List.range (s + 1)).find? (fun k => roundHalfEven m.natAbs k < mantissaBound) =
      some 0 := by
    rw [List.range_succ_eq_map, List.find?_cons]
    simp [roundHalfEven_zero, hm]
  simp [fit?, hfind, roundHalfEven_zero, withSignOf_natAbs]

/-- A fitted coefficient drops `k` digits of the scale, rounding the coefficient half to even,
    and `k` is the fewest that make it fit: every shorter drop still rounds to `2 ^ 96` or
    more. -/
theorem fit?_eq_some_first {m : Int} {s : Nat} {d : Decimal} (h : fit? m s = some d) :
    ∃ k ≤ s, (∀ j < k, mantissaBound ≤ roundHalfEven m.natAbs j) ∧
      roundHalfEven m.natAbs k < mantissaBound ∧
      ofParts? (withSignOf m (roundHalfEven m.natAbs k)) (s - k) = some d := by
  unfold fit? at h
  rcases hk : (List.range (s + 1)).find? (fun k => roundHalfEven m.natAbs k < mantissaBound) with
    _ | k
  · simp [hk] at h
  · simp only [hk, Option.bind_some] at h
    obtain ⟨hfit, hmem, hfirst⟩ := List.find?_range_eq_some.1 hk
    refine ⟨k, by simpa [Nat.lt_succ_iff] using hmem, fun j hj => ?_, by simpa using hfit, h⟩
    simpa using hfirst j hj

/-- A fitted coefficient is within half a unit of its last digit of the exact quotient. -/
theorem abs_val_fit?_sub_le {m : Int} {s : Nat} {d : Decimal} (h : fit? m s = some d) :
    |d.val - m / 10 ^ s| ≤ 1 / (2 * 10 ^ d.scale) := by
  obtain ⟨k, hk, -, -, hd⟩ := fit?_eq_some_first h
  have hval := val_of_ofParts? hd
  have hscale : d.scale = s - k := (ofParts?_mantissa hd).2
  have hp : (0 : ℚ) < 10 ^ (s - k) := by positivity
  have hs : (10 : ℚ) ^ s = 10 ^ k * 10 ^ (s - k) := by rw [← pow_add, Nat.add_sub_cancel' hk]
  have hround := abs_roundHalfEven_sub_le m.natAbs k
  -- the sign is common to the fitted and the exact coefficient, so only magnitudes are compared
  have habs : |d.val - m / 10 ^ s| =
      |(roundHalfEven m.natAbs k : ℚ) - m.natAbs / 10 ^ k| / 10 ^ (s - k) := by
    rw [hval, hs, ← abs_of_pos hp, ← abs_div, abs_of_pos hp, Nat.cast_natAbs, Int.cast_abs]
    unfold withSignOf
    rcases lt_or_ge m 0 with hneg | hnn
    · have hm : |(m : ℚ)| = -m := abs_of_neg (by exact_mod_cast hneg)
      rw [if_pos hneg, hm, ← abs_neg]
      congr 1
      push_cast
      field_simp
      ring
    · have hm : |(m : ℚ)| = m := abs_of_nonneg (by exact_mod_cast hnn)
      rw [if_neg (not_lt.2 hnn), hm]
      congr 1
      field_simp
      push_cast
      ring
  rw [habs, hscale, div_le_iff₀ hp, one_div, mul_inv, inv_mul_cancel_right₀ hp.ne']
  linarith

/-- A coefficient that fits at no scale down to zero rounds to `2 ^ 96` or more whatever the
    number of digits dropped, all of them included. -/
theorem fit?_eq_none {m : Int} {s : Nat} (hs : s ≤ maxScale) (h : fit? m s = none) :
    ∀ k ≤ s, mantissaBound ≤ roundHalfEven m.natAbs k := by
  unfold fit? at h
  rcases hk : (List.range (s + 1)).find? (fun k => roundHalfEven m.natAbs k < mantissaBound) with
    _ | k
  · -- no scale fits
    intro k hks
    simpa using List.find?_range_eq_none.1 hk k (by omega)
  · -- a scale that fits gives a decimal
    simp only [hk, Option.bind_some] at h
    have hfit := List.find?_some hk
    have hmem := List.mem_range.1 (List.mem_of_find?_eq_some hk)
    have hmag : (withSignOf m (roundHalfEven m.natAbs k)).natAbs < mantissaBound := by
      unfold withSignOf
      split <;> simpa using hfit
    have := ofParts?_isSome hmag (show s - k ≤ maxScale by omega)
    rw [h] at this
    cases this

/-! ### Sums -/

/-- Coefficients that cancel give a zero at the larger scale. -/
theorem combine?_of_cancel {a b : Decimal}
    (hz : a.aligned (max a.scale b.scale) + b.aligned (max a.scale b.scale) = 0) :
    ∃ c, a.combine? b = some c ∧ c.val = 0 := by
  have ht : max a.scale b.scale ≤ maxScale := max_le a.scale_le b.scale_le
  refine ⟨⟨a.negative, 0, max a.scale b.scale, by decide, ht⟩, ?_, by simp [val, mantissa]⟩
  simp [combine?, hz, ofSigned?, mantissaBound, ht]

/-- A sum is exact as soon as its fitted coefficient is: a zero operand and coefficients that
    cancel give the exact sum anyway. -/
theorem val_add?_of_fit? {a b : Decimal}
    (h : ∃ c, fit? (a.aligned (max a.scale b.scale) + b.aligned (max a.scale b.scale))
      (max a.scale b.scale) = some c ∧ c.val = a.val + b.val) :
    ∃ c, a.add? b = some c ∧ c.val = a.val + b.val := by
  unfold add?
  split_ifs with ha hb
  · exact ⟨b, rfl, by rw [val_of_isZero ha, zero_add]⟩
  · exact ⟨a, rfl, by rw [val_of_isZero hb, add_zero]⟩
  · by_cases hz : a.aligned (max a.scale b.scale) + b.aligned (max a.scale b.scale) = 0
    · obtain ⟨c, hc, hc0⟩ := combine?_of_cancel hz
      exact ⟨c, hc, by rw [hc0, val_add_eq_zero hz]⟩
    · obtain ⟨c, hc, hval⟩ := h
      exact ⟨c, by simp [combine?, hz, hc], hval⟩

/-- **A sum that fits is exact.** When the exact sum, at the larger of the two scales, has a
    coefficient below `2 ^ 96`, the sum is a decimal with exactly that value. -/
theorem val_add?_of_fits {a b : Decimal}
    (h : |a.val + b.val| * 10 ^ max a.scale b.scale < 2 ^ 96) :
    ∃ c, a.add? b = some c ∧ c.val = a.val + b.val := by
  refine val_add?_of_fit? ?_
  -- the coefficient fits, and is taken as it is
  have hm := aligned_add_val a b
  have ht : max a.scale b.scale ≤ maxScale := max_le a.scale_le b.scale_le
  set m := a.aligned (max a.scale b.scale) + b.aligned (max a.scale b.scale)
  have hfit : m.natAbs < mantissaBound := by
    have hq : ((m.natAbs : ℕ) : ℚ) < ((2 ^ 96 : ℕ) : ℚ) := by
      rw [Nat.cast_natAbs, Int.cast_abs, hm, abs_mul,
        abs_of_pos (by positivity : (0 : ℚ) < 10 ^ max a.scale b.scale)]
      push_cast
      exact h
    exact_mod_cast hq
  obtain ⟨c, hc⟩ := Option.isSome_iff_exists.1 (ofParts?_isSome hfit ht)
  refine ⟨c, by rw [fit?_of_lt hfit, hc], ?_⟩
  rw [val_of_ofParts? hc, hm]
  field_simp

/-- What a sum can be: the other operand when one is zero; otherwise, at the larger scale, a
    zero when the coefficients cancel and the fitted coefficient when they do not. -/
theorem add?_eq_some {a b c : Decimal} (h : a.add? b = some c) :
    (a.isZero ∧ c = b) ∨ (b.isZero ∧ c = a) ∨
      (a.aligned (max a.scale b.scale) + b.aligned (max a.scale b.scale) = 0 ∧
        c.magnitude = 0 ∧ c.scale = max a.scale b.scale) ∨
      fit? (a.aligned (max a.scale b.scale) + b.aligned (max a.scale b.scale))
        (max a.scale b.scale) = some c := by
  unfold add? at h
  split_ifs at h with ha hb
  · exact .inl ⟨ha, (Option.some_inj.1 h).symm⟩
  · exact .inr (.inl ⟨hb, (Option.some_inj.1 h).symm⟩)
  · unfold combine? at h
    simp only at h
    split_ifs at h with hz
    · unfold ofSigned? at h
      split_ifs at h
      cases h
      exact .inr (.inr (.inl ⟨hz, rfl, rfl⟩))
    · exact .inr (.inr (.inr h))

/-- **Every sum is within half a unit of its last digit** of the exact sum: exact when a zero is
    added or the coefficients cancel, and rounded half to even otherwise. -/
theorem abs_val_add?_sub_le {a b c : Decimal} (h : a.add? b = some c) :
    |c.val - (a.val + b.val)| ≤ 1 / (2 * 10 ^ c.scale) := by
  rcases add?_eq_some h with ⟨ha, rfl⟩ | ⟨hb, rfl⟩ | ⟨hz, hc, -⟩ | hfit
  · simp [val_of_isZero ha]
  · simp [val_of_isZero hb]
  · -- a sum of opposites is a zero
    have hcv : c.val = 0 := by simp [val, mantissa, hc]
    rw [hcv, val_add_eq_zero hz, sub_zero, abs_zero]
    positivity
  · have hp : (0 : ℚ) < 10 ^ max a.scale b.scale := by positivity
    have := abs_val_fit?_sub_le hfit
    rwa [aligned_add_val, mul_div_cancel_right₀ _ hp.ne'] at this

/-- A sum has no more fraction digits than the finer of its operands: fitting only drops digits. -/
theorem scale_add?_le {a b c : Decimal} (h : a.add? b = some c) :
    c.scale ≤ max a.scale b.scale := by
  rcases add?_eq_some h with ⟨-, rfl⟩ | ⟨-, rfl⟩ | ⟨-, -, hs⟩ | hfit
  · exact le_max_right _ _
  · exact le_max_left _ _
  · exact hs.le
  · obtain ⟨k, -, -, -, hd⟩ := fit?_eq_some_first hfit
    rw [(ofParts?_mantissa hd).2]
    exact Nat.sub_le _ _

/-- **A sum overflows only out of reach.** A sum that has no decimal has magnitude at least
    `2 ^ 96 - 1/2`: rounded to an integer it does not fit 96 bits. -/
theorem le_abs_of_add?_eq_none {a b : Decimal} (h : a.add? b = none) :
    2 ^ 96 - 1 / 2 ≤ |a.val + b.val| := by
  unfold add? at h
  split_ifs at h with ha hb
  unfold combine? at h
  have hm := aligned_add_val a b
  have ht : max a.scale b.scale ≤ maxScale := max_le a.scale_le b.scale_le
  have hp : (0 : ℚ) < 10 ^ max a.scale b.scale := by positivity
  simp only at h
  split_ifs at h with hz
  · -- a zero always fits
    simp [ofSigned?, mantissaBound, ht] at h
  · set m := a.aligned (max a.scale b.scale) + b.aligned (max a.scale b.scale)
    have hbound : (2 : ℚ) ^ 96 ≤ roundHalfEven m.natAbs (max a.scale b.scale) := by
      have := fit?_eq_none ht h _ le_rfl
      exact_mod_cast this
    have hround := abs_roundHalfEven_sub_le m.natAbs (max a.scale b.scale)
    -- the magnitude of the exact sum is the coefficient's, scaled down
    have hmag : (m.natAbs : ℚ) / 10 ^ max a.scale b.scale = |a.val + b.val| := by
      rw [Nat.cast_natAbs, Int.cast_abs, hm, abs_mul, abs_of_pos hp, mul_div_cancel_right₀ _ hp.ne']
    rw [hmag] at hround
    linarith [(abs_le.1 hround).2]

end Decimal

end RobotTrading
