import Mathlib.Data.Nat.Cast.Field
import RobotTrading.Proofs.Decimal.Rounding

/-!
# Halving a decimal

`Decimal.half` divides a decimal by two. An even coefficient is halved at its own scale. An
odd one is first scaled up by the largest power of ten that fits (at most nine, never past
scale 28), which makes the division exact, and the quotient then sheds trailing zeros in steps
of four, two and one digits. With no room to scale up, the half rounds to the even neighbour.

Halving keeps the sign, and it is exact whenever the half is a decimal at all: an odd
coefficient has a decimal half only when one more fraction digit is free and five times the
coefficient fits, and then the scaling has room for at least one digit.

## Main definitions

- `Decimal.partsVal` — the number a magnitude and a scale stand for.

## Main statements

- `Decimal.halfParts_spec` — a magnitude is halved exactly when it is even or has room.
- `Decimal.val_half_nonneg` — the half of a nonnegative decimal is nonnegative.
- `Decimal.val_half_of_representable` — halving is exact when the half is a decimal.
-/

namespace RobotTrading

namespace Decimal

/-- The number a magnitude and a scale stand for. -/
def partsVal (p : Nat × Nat) : ℚ := p.1 / 10 ^ p.2

/-! ### Shedding trailing zeros -/

theorem partsVal_shedZeros (k : Nat) (p : Nat × Nat) : partsVal (shedZeros k p) = partsVal p := by
  unfold shedZeros
  split
  · rename_i h
    have hdvd : 10 ^ k ∣ p.1 := Nat.dvd_of_mod_eq_zero h.2
    have hs : (10 : ℚ) ^ p.2 = 10 ^ k * 10 ^ (p.2 - k) := by rw [← pow_add, Nat.add_sub_cancel' h.1]
    simp only [partsVal]
    rw [Nat.cast_div hdvd (by positivity), hs, div_div]
    push_cast
    rfl
  · rfl

theorem shedZeros_le (k : Nat) (p : Nat × Nat) :
    (shedZeros k p).1 ≤ p.1 ∧ (shedZeros k p).2 ≤ p.2 := by
  unfold shedZeros
  split
  · exact ⟨Nat.div_le_self _ _, Nat.sub_le _ _⟩
  · exact ⟨le_rfl, le_rfl⟩

/-- Shedding keeps the value and never grows the magnitude or the scale. -/
theorem shed_spec (p : Nat × Nat) :
    partsVal (shedZeros 1 (shedZeros 2 (shedZeros 4 p))) = partsVal p ∧
      (shedZeros 1 (shedZeros 2 (shedZeros 4 p))).1 ≤ p.1 ∧
      (shedZeros 1 (shedZeros 2 (shedZeros 4 p))).2 ≤ p.2 := by
  have h₄ := shedZeros_le 4 p
  have h₂ := shedZeros_le 2 (shedZeros 4 p)
  have h₁ := shedZeros_le 1 (shedZeros 2 (shedZeros 4 p))
  refine ⟨by simp only [partsVal_shedZeros], by omega, by omega⟩

/-- A magnitude ending in a zero, at a scale with a fraction digit, sheds at least one digit. -/
theorem shed_le_div {p : Nat × Nat} (hs : 1 ≤ p.2) (h10 : p.1 % 10 = 0) :
    (shedZeros 1 (shedZeros 2 (shedZeros 4 p))).1 ≤ p.1 / 10 := by
  have h₂ := shedZeros_le 2 (shedZeros 4 p)
  have h₁ := shedZeros_le 1 (shedZeros 2 (shedZeros 4 p))
  -- the first step that sheds anything divides by ten at least
  by_cases h₄ : 4 ≤ p.2 ∧ p.1 % 10 ^ 4 = 0
  · have : (shedZeros 4 p).1 = p.1 / 10 ^ 4 := by rw [shedZeros, if_pos h₄]
    have hdiv : p.1 / 10 ^ 4 ≤ p.1 / 10 := Nat.div_le_div_left (by norm_num) (by norm_num)
    omega
  have e₄ : shedZeros 4 p = p := by rw [shedZeros, if_neg h₄]
  rw [e₄] at h₂ h₁ ⊢
  by_cases h₂' : 2 ≤ p.2 ∧ p.1 % 10 ^ 2 = 0
  · have : (shedZeros 2 p).1 = p.1 / 10 ^ 2 := by rw [shedZeros, if_pos h₂']
    have hdiv : p.1 / 10 ^ 2 ≤ p.1 / 10 := Nat.div_le_div_left (by norm_num) (by norm_num)
    omega
  have e₂ : shedZeros 2 p = p := by rw [shedZeros, if_neg h₂']
  rw [e₂]
  simp [shedZeros, hs, h10]

/-! ### Room to scale up -/

/-- The largest power of ten that fits is one that fits, when it is not zero. -/
theorem headroom_spec {q room : Nat} (h : 0 < headroom q room) :
    headroom q room ≤ min 9 room ∧ q * 10 ^ headroom q room < mantissaBound := by
  unfold headroom at h ⊢
  rw [List.foldl_max] at h ⊢
  cases hmax : ((List.range (min 9 room + 1)).filter fun p => q * 10 ^ p < mantissaBound).max? with
  | none => simp [hmax] at h
  | some x =>
    have hx := List.max?_mem hmax
    simp only [List.mem_filter, List.mem_range, decide_eq_true_eq] at hx
    simp only [Option.getD_some, Nat.zero_max]
    exact ⟨by omega, hx.2⟩

/-- Every power of ten that fits is at most the largest one. -/
theorem le_headroom {q room p : Nat} (hp : p ≤ min 9 room) (hq : q * 10 ^ p < mantissaBound) :
    p ≤ headroom q room := by
  have hmem : p ∈ (List.range (min 9 room + 1)).filter fun p => q * 10 ^ p < mantissaBound := by
    simp [List.mem_range, hq]
    omega
  unfold headroom
  rw [List.foldl_max]
  cases hmax : ((List.range (min 9 room + 1)).filter fun p => q * 10 ^ p < mantissaBound).max? with
  | none => simp [List.max?_eq_none_iff.1 hmax] at hmem
  | some x =>
    simp only [Option.getD_some, Nat.zero_max]
    exact (List.max?_eq_some_iff.1 hmax).2 p hmem

/-! ### Halving magnitudes -/

theorem halfParts_of_even {n : Nat} (s : Nat) (h : n % 2 = 0) : halfParts n s = (n / 2, s) := by
  simp [halfParts, h]

/-- An odd magnitude `2 q + 1` scaled up by `j + 1 ≤ 9` digits and halved is
    `q 10 ^ (j + 1) + 5 10 ^ j`; once its zeros are shed it fits, when `q 10 ^ (j + 1)` and
    `5 (2 q + 1)` do. -/
theorem shed_scaled_half_lt {q j s : Nat} (hj : j ≤ 8) (hpq : q * 10 ^ (j + 1) < mantissaBound)
    (h5 : 5 * (2 * q + 1) < mantissaBound) :
    (shedZeros 1 (shedZeros 2 (shedZeros 4 (q * 10 ^ (j + 1) + 5 * 10 ^ j, s + (j + 1))))).1 <
      mantissaBound := by
  have hb : mantissaBound = 79228162514264337593543950336 := by norm_num [mantissaBound]
  have hfst := (shed_spec (q * 10 ^ (j + 1) + 5 * 10 ^ j, s + (j + 1))).2.1
  simp only at hfst
  rcases Nat.eq_zero_or_pos j with rfl | hj0
  · -- one digit up: the magnitude is five times the odd one
    simp only [zero_add, pow_one, pow_zero, mul_one] at hfst ⊢
    omega
  · -- more digits up: at least one zero is shed again
    obtain ⟨i, rfl⟩ : ∃ i, j = i + 1 := ⟨j - 1, by omega⟩
    have hten : (q * 10 ^ (i + 1 + 1) + 5 * 10 ^ (i + 1)) % 10 = 0 := by
      simp [pow_succ, Nat.add_mod, ← mul_assoc]
    have hle := @shed_le_div (q * 10 ^ (i + 1 + 1) + 5 * 10 ^ (i + 1), s + (i + 1 + 1))
      (by show 1 ≤ s + (i + 1 + 1); omega) hten
    have hi : 10 ^ i ≤ 10 ^ 7 := Nat.pow_le_pow_right (by norm_num) (by omega)
    -- `q * 10 ^ (i + 1) + 5 * 10 ^ i` is below `q * 10 ^ (i + 2)`, or below `10 ^ 8` for `q = 0`
    have hsmall : (q * 10 ^ (i + 1 + 1) + 5 * 10 ^ (i + 1)) / 10 < mantissaBound := by
      simp only [pow_succ] at hpq ⊢
      generalize 10 ^ i = P at hpq hi ⊢
      rw [show q * (P * 10 * 10) + 5 * (P * 10) = 10 * (q * P * 10 + 5 * P) by ring,
        Nat.mul_div_cancel_left _ (by norm_num)]
      have hpq' : q * P * 100 < mantissaBound := by
        calc q * P * 100 = q * (P * 10 * 10) := by ring
          _ < mantissaBound := hpq
      rcases Nat.eq_zero_or_pos q with rfl | hq0
      · omega
      · have : P ≤ q * P := Nat.le_mul_of_pos_left P hq0
        omega
    exact lt_of_le_of_lt hle hsmall

/-- An odd magnitude with a fraction digit free and five times itself within 96 bits is halved
    exactly: it is scaled up by at least one digit, then sheds zeros. -/
theorem halfParts_of_odd {n s : Nat} (hodd : n % 2 = 1) (hs : s < maxScale)
    (hfit : 5 * n < mantissaBound) :
    (halfParts n s).1 < mantissaBound ∧ (halfParts n s).2 ≤ maxScale ∧
      partsVal (halfParts n s) = n / (2 * 10 ^ s) := by
  have hp1 : 1 ≤ headroom (n / 2) (maxScale - s) :=
    le_headroom (by unfold maxScale at *; omega) (by omega)
  obtain ⟨hp9, hpq⟩ := headroom_spec (show 0 < headroom (n / 2) (maxScale - s) by omega)
  have hhalf : halfParts n s = shedZeros 1 (shedZeros 2 (shedZeros 4
      (n / 2 * 10 ^ headroom (n / 2) (maxScale - s) +
        5 * 10 ^ (headroom (n / 2) (maxScale - s) - 1), s + headroom (n / 2) (maxScale - s)))) := by
    unfold halfParts
    dsimp only
    rw [if_neg (by omega), if_pos hs, if_neg (by omega)]
  rw [hhalf]
  generalize headroom (n / 2) (maxScale - s) = p at *
  generalize hq : n / 2 = q at *
  have hn : n = 2 * q + 1 := by omega
  obtain ⟨j, rfl⟩ : ∃ j, p = j + 1 := ⟨p - 1, by omega⟩
  rw [Nat.add_sub_cancel]
  obtain ⟨hval, -, hsnd⟩ := shed_spec (q * 10 ^ (j + 1) + 5 * 10 ^ j, s + (j + 1))
  simp only at hsnd
  refine ⟨shed_scaled_half_lt (by omega) hpq (by omega), by unfold maxScale at *; omega, ?_⟩
  rw [hval]
  simp only [partsVal]
  push_cast
  rw [hn]
  push_cast
  field_simp
  ring

/-- A magnitude is halved exactly, to a magnitude and a scale that fit, when it is even, or
    when a fraction digit is free and five times itself fits. -/
theorem halfParts_spec {n s : Nat} (hn : n < mantissaBound) (hs : s ≤ maxScale)
    (h : n % 2 = 0 ∨ (s < maxScale ∧ 5 * n < mantissaBound)) :
    (halfParts n s).1 < mantissaBound ∧ (halfParts n s).2 ≤ maxScale ∧
      partsVal (halfParts n s) = n / (2 * 10 ^ s) := by
  rcases Nat.mod_two_eq_zero_or_one n with heven | hodd
  · rw [halfParts_of_even _ heven]
    refine ⟨by omega, hs, ?_⟩
    simp only [partsVal]
    rw [Nat.cast_div (Nat.dvd_of_mod_eq_zero heven) (by norm_num)]
    push_cast
    field_simp
  · obtain ⟨hroom, hfit⟩ := h.resolve_left (by omega)
    exact halfParts_of_odd hodd hroom hfit

/-- A nonzero decimal's half is a decimal only when its magnitude is even, or when one more
    fraction digit is free and five times the magnitude fits. -/
theorem even_or_room_of_representable {d : Decimal} (h : Representable (d.val / 2)) :
    d.magnitude % 2 = 0 ∨ (d.scale < maxScale ∧ 5 * d.magnitude < mantissaBound) := by
  obtain ⟨e, he⟩ := h
  -- cross-multiplied: `2 |e| 10 ^ s = |d| 10 ^ (scale of e)`
  have hcross : 2 * e.magnitude * 10 ^ d.scale = d.magnitude * 10 ^ e.scale := by
    have : (e.mantissa : ℚ) / 10 ^ e.scale = d.mantissa / 10 ^ d.scale / 2 := he
    rw [div_div, div_eq_div_iff (by positivity) (by positivity)] at this
    have hz : e.mantissa * (10 ^ d.scale * 2) = d.mantissa * 10 ^ e.scale := by exact_mod_cast this
    have := congrArg Int.natAbs hz
    simp only [Int.natAbs_mul, Int.natAbs_pow, mantissa_natAbs] at this
    simpa [mul_comm, mul_left_comm, mul_assoc] using this
  rcases Nat.lt_or_ge d.scale e.scale with hlt | hge
  · right
    obtain ⟨j, hj⟩ := Nat.exists_eq_add_of_lt hlt
    -- the half is five times the magnitude, followed by zeros
    have h5 : e.magnitude = 5 * d.magnitude * 10 ^ j := by
      have h2 : 2 * e.magnitude * 10 ^ d.scale = 2 * (5 * d.magnitude * 10 ^ j) * 10 ^ d.scale := by
        rw [hcross, hj]
        ring
      have := Nat.eq_of_mul_eq_mul_right (by positivity) h2
      omega
    refine ⟨by have := e.scale_le; omega, ?_⟩
    calc 5 * d.magnitude ≤ 5 * d.magnitude * 10 ^ j := Nat.le_mul_of_pos_right _ (by positivity)
      _ = e.magnitude := h5.symm
      _ < mantissaBound := e.magnitude_lt
  · left
    obtain ⟨j, hj⟩ := Nat.exists_eq_add_of_le hge
    have h2 : 2 * (e.magnitude * 10 ^ j) * 10 ^ e.scale = d.magnitude * 10 ^ e.scale := by
      rw [← hcross, hj]
      ring
    have := Nat.eq_of_mul_eq_mul_right (by positivity) h2
    omega

/-! ### Halving decimals -/

@[simp] theorem val_zero : zero.val = 0 := by
  simp [val, zero, mantissa]

/-- The half of a nonzero decimal carries the sign of its mantissa on the halved magnitude. -/
theorem val_half_of_ne_zero {d : Decimal} (hz : d.isZero = false)
    (hfst : (halfParts d.magnitude d.scale).1 < mantissaBound)
    (hsnd : (halfParts d.magnitude d.scale).2 ≤ maxScale) :
    d.half.val = (withSignOf d.mantissa (halfParts d.magnitude d.scale).1 : Int) /
      10 ^ (halfParts d.magnitude d.scale).2 := by
  obtain ⟨c, hc⟩ := Option.isSome_iff_exists.1
    (@ofParts?_isSome (withSignOf d.mantissa (halfParts d.magnitude d.scale).1) _
      (by simpa using hfst) hsnd)
  simp only [half, hz, Bool.false_eq_true, if_false, mantissa_natAbs, hc, Option.getD_some]
  exact val_of_ofParts? hc

/-- **Halving keeps the sign**: the half of a nonnegative decimal is nonnegative. -/
theorem val_half_nonneg {d : Decimal} (h : 0 ≤ d.val) : 0 ≤ d.half.val := by
  have hm : 0 ≤ d.mantissa := by
    have : (0 : ℚ) ≤ d.mantissa := by
      have := mul_nonneg h (by positivity : (0 : ℚ) ≤ 10 ^ d.scale)
      rwa [val, div_mul_cancel₀ _ (by positivity)] at this
    exact_mod_cast this
  unfold half
  split
  · rw [val_zero]
  · dsimp only
    cases hc : ofParts? (withSignOf d.mantissa (halfParts d.mantissa.natAbs d.scale).1)
        (halfParts d.mantissa.natAbs d.scale).2 with
    | none => rw [Option.getD_none, val_zero]
    | some c =>
      rw [Option.getD_some, val_of_ofParts? hc, withSignOf, if_neg (not_lt.2 hm)]
      positivity

/-- **Halving is exact when the half is a decimal.** -/
theorem val_half_of_representable {d : Decimal} (h : Representable (d.val / 2)) :
    d.half.val = d.val / 2 := by
  by_cases hz : d.isZero
  · simp [half, hz, val_of_isZero hz]
  -- the halved magnitude fits, and stands for half the magnitude
  obtain ⟨hfst, hsnd, hval⟩ :=
    halfParts_spec d.magnitude_lt d.scale_le (even_or_room_of_representable h)
  rw [val_half_of_ne_zero (by simpa using hz) hfst hsnd]
  simp only [partsVal] at hval
  have hmag : 0 < d.magnitude := by
    simp only [isZero, beq_iff_eq] at hz
    omega
  -- the sign of the mantissa goes onto half the magnitude
  simp only [val, mantissa]
  cases hneg : d.negative
  · simp only [Bool.false_eq_true, if_false]
    rw [withSignOf_of_pos (by omega), Int.cast_natCast, hval]
    push_cast
    ring
  · simp only [if_true]
    rw [withSignOf, if_pos (by omega), Int.cast_neg, neg_div, Int.cast_natCast, hval]
    push_cast
    ring

end Decimal

end RobotTrading
