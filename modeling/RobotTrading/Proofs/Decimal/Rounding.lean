import RobotTrading.Proofs.Decimal.Sum

/-!
# Exact and monotone rounding of sums

A sum of decimals is formed exactly at the larger of the two scales, and rounded only when its
coefficient does not fit 96 bits: fraction digits are then dropped, the fewest that make it
fit. This file shows two properties of that rounding.

It is exact on decimals. The digits a fit drops are zeros whenever the exact sum is itself a
decimal, so such a sum is computed without error, however many digits the two scales carry.

It is monotone. Of two positive coefficients at one scale, the larger may drop more digits
than the smaller, but it never fits to a smaller decimal: a coefficient that needs one more
dropped digit is at least `2 ^ 96 - 1/2` units of the finer scale, above every decimal of that
scale. So subtracting a nonnegative decimal never gives more than adding it.

## Main definitions

- `Decimal.Representable` — a rational number that some decimal stands for.

## Main statements

- `Decimal.val_fit?_of_dvd` — a coefficient whose dropped digits are zeros is fitted exactly.
- `Decimal.val_fit?_le_val_fit?` — fitting is monotone on positive coefficients.
- `Decimal.val_add?_of_representable`, `Decimal.val_sub?_of_representable` — a sum or a
  difference that is a decimal is computed exactly.
- `Decimal.abs_val_sub?_sub_le` — every difference is within half a unit of its last digit.
- `Decimal.val_sub?_le_val_add?` — subtracting a nonnegative decimal gives at most adding it.
-/

namespace RobotTrading

namespace Decimal

/-- A rational number is representable when some decimal stands for it. -/
def Representable (q : ℚ) : Prop := ∃ d : Decimal, d.val = q

/-! ### Negation -/

@[simp] theorem scale_neg (d : Decimal) : d.neg.scale = d.scale := rfl

@[simp] theorem isZero_neg (d : Decimal) : d.neg.isZero = d.isZero := rfl

@[simp] theorem mantissa_neg (d : Decimal) : d.neg.mantissa = -d.mantissa := by
  cases h : d.negative <;> simp [neg, mantissa, h]

@[simp] theorem val_neg (d : Decimal) : d.neg.val = -d.val := by
  simp [val, neg_div]

@[simp] theorem aligned_neg (d : Decimal) (t : Nat) : d.neg.aligned t = -d.aligned t := by
  simp [aligned]

theorem Representable.neg {q : ℚ} (h : Representable q) : Representable (-q) := by
  obtain ⟨d, rfl⟩ := h
  exact ⟨d.neg, val_neg d⟩

/-! ### Rounding half to even -/

/-- Dropping digits that are all zeros is exact. -/
theorem roundHalfEven_of_dvd {n k : Nat} (h : 10 ^ k ∣ n) : roundHalfEven n k = n / 10 ^ k := by
  have hp : 0 < 10 ^ k := by positivity
  unfold roundHalfEven
  simp only [Nat.mod_eq_zero_of_dvd h]
  rw [if_neg]
  rintro (h₁ | ⟨h₂, -⟩) <;> omega

theorem roundHalfEven_zero_left (k : Nat) : roundHalfEven 0 k = 0 := by
  simp [roundHalfEven_of_dvd (dvd_zero (10 ^ k))]

/-- Rounding half to even is monotone in the rounded number. -/
theorem roundHalfEven_mono {n n' : Nat} (k : Nat) (h : n ≤ n') :
    roundHalfEven n k ≤ roundHalfEven n' k := by
  have hp : 0 < 10 ^ k := by positivity
  have hd := Nat.div_add_mod' n (10 ^ k)
  have hd' := Nat.div_add_mod' n' (10 ^ k)
  have hr := Nat.mod_lt n hp
  have hr' := Nat.mod_lt n' hp
  have hq : n / 10 ^ k ≤ n' / 10 ^ k := Nat.div_le_div_right h
  unfold roundHalfEven
  simp only
  generalize n / 10 ^ k = q at *
  generalize n' / 10 ^ k = q' at *
  generalize n % 10 ^ k = r at *
  generalize n' % 10 ^ k = r' at *
  generalize 10 ^ k = p at *
  rcases Nat.lt_or_eq_of_le hq with hlt | rfl
  · split_ifs <;> omega
  · -- one quotient: the remainders are ordered as the numbers are
    split_ifs <;> omega

/-- Dropping one more digit moves the rounded number, scaled back, by at most five units. -/
theorem roundHalfEven_le_succ (n k : Nat) :
    roundHalfEven n k ≤ 10 * roundHalfEven n (k + 1) + 5 := by
  obtain ⟨h₁, -⟩ := roundHalfEven_half n k
  obtain ⟨-, h₂⟩ := roundHalfEven_half n (k + 1)
  have hp : 0 < 10 ^ k := by positivity
  rw [pow_succ] at h₂
  generalize roundHalfEven n k = a at *
  generalize roundHalfEven n (k + 1) = b at *
  generalize 10 ^ k = p at *
  -- `2 a p ≤ 2 n + p` and `2 n ≤ 20 b p + 10 p`, so `2 a ≤ 20 b + 11`
  have h : (2 * a) * p ≤ (20 * b + 11) * p := by nlinarith
  have := Nat.le_of_mul_le_mul_right h hp
  omega

/-! ### Fitting a coefficient -/

@[simp] theorem natAbs_withSignOf (m : Int) (n : Nat) : (withSignOf m n).natAbs = n := by
  unfold withSignOf
  split <;> simp

theorem withSignOf_of_pos {m : Int} (hm : 0 < m) (n : Nat) : withSignOf m n = n := by
  simp [withSignOf, not_lt.2 hm.le]

/-- A decimal that drops `k` digits of a scale `s` stands for its coefficient scaled back. -/
theorem val_of_ofParts?_drop {x : Int} {s k : Nat} {d : Decimal} (hk : k ≤ s)
    (h : ofParts? x (s - k) = some d) : d.val = (x * 10 ^ k : Int) / 10 ^ s := by
  have hs : (10 : ℚ) ^ s = 10 ^ (s - k) * 10 ^ k := by rw [← pow_add, Nat.sub_add_cancel hk]
  rw [val_of_ofParts? h, hs]
  push_cast
  field_simp

/-- A coefficient that fits once `k` digits of its scale are dropped has a fitted decimal. -/
theorem fit?_isSome {m : Int} {s k : Nat} (hk : k ≤ s) (hs : s ≤ maxScale)
    (hfit : roundHalfEven m.natAbs k < mantissaBound) : (fit? m s).isSome := by
  cases hf : fit? m s with
  | some d => rfl
  | none => exact absurd (fit?_eq_none hs hf k hk) (Nat.not_le.2 hfit)

/-- A fitted decimal has the sign of its coefficient: one above zero comes from a positive
    coefficient. -/
theorem pos_of_fit? {m : Int} {s : Nat} {d : Decimal} (h : fit? m s = some d) (hd : 0 < d.val) :
    0 < m := by
  obtain ⟨k, hk, -, -, hparts⟩ := fit?_eq_some_first h
  rw [val_of_ofParts?_drop hk hparts] at hd
  have hnum : (0 : ℚ) < (withSignOf m (roundHalfEven m.natAbs k) * 10 ^ k : Int) :=
    (div_pos_iff_of_pos_right (by positivity)).1 hd
  have hpos : 0 < withSignOf m (roundHalfEven m.natAbs k) := by
    have : (0 : Int) < withSignOf m (roundHalfEven m.natAbs k) * 10 ^ k := by exact_mod_cast hnum
    exact pos_of_mul_pos_left this (by positivity)
  unfold withSignOf at hpos
  split at hpos
  · omega
  · -- a zero coefficient rounds to zero
    by_contra hm
    obtain rfl : m = 0 := by omega
    simp [roundHalfEven_zero_left] at hpos

/-- **Fitting is exact on zeros**: when the digits `k` drops are all zeros and what is left fits,
    the fitted decimal stands for the coefficient exactly. The fit may drop fewer digits. -/
theorem val_fit?_of_dvd {m : Int} {s k : Nat} (hk : k ≤ s) (hs : s ≤ maxScale)
    (hdvd : 10 ^ k ∣ m.natAbs) (hfit : m.natAbs / 10 ^ k < mantissaBound) :
    ∃ d, fit? m s = some d ∧ d.val = m / 10 ^ s := by
  have hR := roundHalfEven_of_dvd hdvd
  obtain ⟨d, hd⟩ := Option.isSome_iff_exists.1 (fit?_isSome hk hs (hR ▸ hfit))
  obtain ⟨k₀, hk₀s, hfirst, -, hparts⟩ := fit?_eq_some_first hd
  -- the first drop that fits is no longer than `k`, so it drops zeros only
  have hk₀ : k₀ ≤ k := by
    by_contra hlt
    have := hfirst k (by omega)
    omega
  have hdvd₀ : 10 ^ k₀ ∣ m.natAbs := (Nat.pow_dvd_pow 10 hk₀).trans hdvd
  have hback : withSignOf m (m.natAbs / 10 ^ k₀) * 10 ^ k₀ = m := by
    have hmul : ((m.natAbs / 10 ^ k₀ : Nat) : Int) * 10 ^ k₀ = m.natAbs := by
      exact_mod_cast Nat.div_mul_cancel hdvd₀
    unfold withSignOf
    split
    · rw [Int.neg_mul, hmul]
      omega
    · rw [hmul]
      omega
  refine ⟨d, hd, ?_⟩
  rw [val_of_ofParts?_drop hk₀s hparts, roundHalfEven_of_dvd hdvd₀, hback]

/-- A coefficient at a scale of at most 28 whose quotient is a decimal drops only zeros down
    to a coefficient that fits. -/
theorem exists_drop_of_val_eq {m : Int} {s : Nat} {d : Decimal} (h : d.val = m / 10 ^ s) :
    ∃ k ≤ s, 10 ^ k ∣ m.natAbs ∧ m.natAbs / 10 ^ k < mantissaBound := by
  have hcross : d.mantissa * 10 ^ s = m * 10 ^ d.scale := by
    have : (d.mantissa : ℚ) / 10 ^ d.scale = m / 10 ^ s := h
    rw [div_eq_div_iff (by positivity) (by positivity)] at this
    exact_mod_cast this
  rcases Nat.le_total d.scale s with hle | hle
  · -- the decimal is coarser: the coefficient is its mantissa followed by zeros
    obtain ⟨j, rfl⟩ := Nat.exists_eq_add_of_le hle
    have hm : m = d.mantissa * 10 ^ j := by
      have h' : (d.mantissa * 10 ^ j) * 10 ^ d.scale = m * 10 ^ d.scale := by
        rw [← hcross]
        ring
      exact (mul_right_cancel₀ (pow_ne_zero _ (by norm_num)) h').symm
    have habs : m.natAbs = d.magnitude * 10 ^ j := by
      rw [hm, Int.natAbs_mul, Int.natAbs_pow, mantissa_natAbs]
      rfl
    refine ⟨j, by omega, ⟨d.magnitude, by rw [habs, mul_comm]⟩, ?_⟩
    rw [habs, Nat.mul_div_cancel _ (by positivity)]
    exact d.magnitude_lt
  · -- the decimal is finer: its magnitude is the coefficient followed by zeros
    obtain ⟨j, hj⟩ := Nat.exists_eq_add_of_le hle
    have hm : d.mantissa = m * 10 ^ j := by
      have h' : d.mantissa * 10 ^ s = (m * 10 ^ j) * 10 ^ s := by
        rw [hcross, hj]
        ring
      exact mul_right_cancel₀ (pow_ne_zero _ (by norm_num)) h'
    have habs : d.magnitude = m.natAbs * 10 ^ j := by
      rw [← mantissa_natAbs, hm, Int.natAbs_mul, Int.natAbs_pow]
      rfl
    refine ⟨0, Nat.zero_le _, by simp, ?_⟩
    have hle' : m.natAbs ≤ d.magnitude := habs ▸ Nat.le_mul_of_pos_right _ (by positivity)
    simpa using lt_of_le_of_lt hle' d.magnitude_lt

/-- **Fitting is monotone** on positive coefficients: a larger coefficient never fits to a
    smaller decimal, although it may drop more digits. -/
theorem val_fit?_le_val_fit? {m m' : Int} {s : Nat} {d d' : Decimal} (hm : 0 < m)
    (hle : m ≤ m') (hd : fit? m s = some d) (hd' : fit? m' s = some d') : d.val ≤ d'.val := by
  obtain ⟨k, hks, hfirst, hR, hparts⟩ := fit?_eq_some_first hd
  obtain ⟨k', hks', hfirst', hR', hparts'⟩ := fit?_eq_some_first hd'
  have hnat : m.natAbs ≤ m'.natAbs := by omega
  -- the smaller coefficient fits wherever the larger one does, so it drops no more digits
  have hkk : k ≤ k' := by
    by_contra hlt
    have := hfirst k' (by omega)
    have := roundHalfEven_mono k' hnat
    omega
  set R := roundHalfEven m.natAbs k
  set R' := roundHalfEven m'.natAbs k'
  have key : R * 10 ^ k ≤ R' * 10 ^ k' := by
    rcases Nat.lt_or_ge k k' with hlt | hge
    · -- one digit less would not fit the larger coefficient: it is past every decimal of
      -- the finer scale
      obtain ⟨j, rfl⟩ : ∃ j, k' = j + 1 := ⟨k' - 1, by omega⟩
      have hbig := hfirst' j (by omega)
      have hstep := roundHalfEven_le_succ m'.natAbs j
      have hb : mantissaBound = 79228162514264337593543950336 := by norm_num [mantissaBound]
      have h10 : mantissaBound ≤ 10 * R' := by omega
      calc R * 10 ^ k ≤ R * 10 ^ j := Nat.mul_le_mul_left _ (Nat.pow_le_pow_right (by norm_num) (by omega))
        _ ≤ mantissaBound * 10 ^ j := Nat.mul_le_mul_right _ hR.le
        _ ≤ 10 * R' * 10 ^ j := Nat.mul_le_mul_right _ h10
        _ = R' * 10 ^ (j + 1) := by ring
    · obtain rfl : k = k' := by omega
      exact Nat.mul_le_mul_right _ (roundHalfEven_mono k hnat)
  rw [val_of_ofParts?_drop hks hparts, val_of_ofParts?_drop hks' hparts',
    withSignOf_of_pos hm, withSignOf_of_pos (lt_of_lt_of_le hm hle)]
  apply div_le_div_of_nonneg_right _ (by positivity)
  exact_mod_cast key

/-! ### Sums and differences -/

theorem val_of_ofSigned?_zero {negative : Bool} {t : Nat} {d : Decimal}
    (h : ofSigned? negative 0 t = some d) : d.val = 0 := by
  unfold ofSigned? at h
  split at h
  · split at h
    · cases h
      simp [val, mantissa]
    · cases h
  · cases h

/-- **A sum that is a decimal is exact**, however many digits the two scales carry. -/
theorem val_add?_of_representable {a b : Decimal} (h : Representable (a.val + b.val)) :
    ∃ c, a.add? b = some c ∧ c.val = a.val + b.val := by
  obtain ⟨d, hd⟩ := h
  refine val_add?_of_fit? ?_
  -- the exact coefficient, fitted: the digits it drops are zeros
  have hp : (0 : ℚ) < 10 ^ max a.scale b.scale := by positivity
  have hq : d.val = ((a.aligned (max a.scale b.scale) + b.aligned (max a.scale b.scale) : Int) : ℚ) /
      10 ^ max a.scale b.scale := by
    rw [aligned_add_val, mul_div_cancel_right₀ _ hp.ne', hd]
  obtain ⟨k, hk, hdvd, hfit⟩ := exists_drop_of_val_eq hq
  obtain ⟨c, hc, hval⟩ := val_fit?_of_dvd hk (max_le a.scale_le b.scale_le) hdvd hfit
  exact ⟨c, hc, by rw [hval, ← hq, hd]⟩

/-- A difference is the sum with the negated operand, value and scale; only the sign of a zero
    can differ. -/
theorem sub?_map_val_scale (a b : Decimal) :
    (a.sub? b).map (fun c => (c.val, c.scale)) = (a.add? b.neg).map (fun c => (c.val, c.scale)) := by
  unfold sub? add?
  by_cases ha : a.isZero <;> by_cases hb : b.isZero <;> simp [ha, hb, val_of_isZero]

theorem sub?_eq_some {a b c : Decimal} (h : a.sub? b = some c) :
    ∃ c', a.add? b.neg = some c' ∧ c'.val = c.val ∧ c'.scale = c.scale := by
  have := sub?_map_val_scale a b
  rw [h, Option.map_some] at this
  obtain ⟨c', hc', hval⟩ := Option.map_eq_some_iff.1 this.symm
  exact ⟨c', hc', (Prod.mk.inj hval).1, (Prod.mk.inj hval).2⟩

/-- **A difference that is a decimal is exact.** -/
theorem val_sub?_of_representable {a b : Decimal} (h : Representable (a.val - b.val)) :
    ∃ c, a.sub? b = some c ∧ c.val = a.val - b.val := by
  obtain ⟨c', hc', hval⟩ := @val_add?_of_representable a b.neg
    (by rwa [val_neg, ← sub_eq_add_neg])
  have := sub?_map_val_scale a b
  rw [hc', Option.map_some] at this
  obtain ⟨c, hc, hcv⟩ := Option.map_eq_some_iff.1 this
  refine ⟨c, hc, ?_⟩
  rw [(Prod.mk.inj hcv).1, hval, val_neg, sub_eq_add_neg]

/-- Every difference is within half a unit of its last digit of the exact difference. -/
theorem abs_val_sub?_sub_le {a b c : Decimal} (h : a.sub? b = some c) :
    |c.val - (a.val - b.val)| ≤ 1 / (2 * 10 ^ c.scale) := by
  obtain ⟨c', hc', hval, hscale⟩ := sub?_eq_some h
  have := abs_val_add?_sub_le hc'
  rwa [hval, hscale, val_neg, ← sub_eq_add_neg] at this

/-- Adding and subtracting one nonnegative decimal: a positive difference is at most the sum. -/
theorem val_add?_neg_le_val_add? {a b l u : Decimal} (hb : 0 ≤ b.val)
    (hl : a.add? b.neg = some l) (hu : a.add? b = some u) (hpos : 0 < l.val) : l.val ≤ u.val := by
  by_cases ha : a.isZero
  · -- from zero: the difference is the negated operand, never positive
    simp only [add?, ha, if_true, Option.some.injEq] at hl
    subst hl
    rw [val_neg] at hpos
    linarith
  by_cases hbz : b.isZero
  · simp only [add?, ha, hbz, isZero_neg, if_true, Bool.false_eq_true, if_false,
      Option.some.injEq] at hl hu
    rw [← hl, ← hu]
  -- at the common scale the difference's coefficient is below the sum's
  simp only [add?, ha, hbz, isZero_neg, Bool.false_eq_true, if_false] at hl hu
  unfold combine? at hl hu
  simp only [scale_neg, aligned_neg] at hl hu
  set t := max a.scale b.scale
  have hB : 0 ≤ b.aligned t := by
    have : (0 : ℚ) ≤ (b.aligned t : ℚ) := by
      rw [aligned_val b (le_max_right _ _)]
      positivity
    exact_mod_cast this
  by_cases hz : a.aligned t + -b.aligned t = 0
  · -- a cancelled difference is a zero
    rw [if_pos hz] at hl
    rw [val_of_ofSigned?_zero hl] at hpos
    exact absurd hpos (lt_irrefl 0)
  · rw [if_neg hz] at hl
    have hml := pos_of_fit? hl hpos
    have hmu : a.aligned t + b.aligned t ≠ 0 := by omega
    rw [if_neg hmu] at hu
    exact val_fit?_le_val_fit? hml (by omega) hl hu

/-- **Subtracting is at most adding** a nonnegative decimal, where the difference is positive:
    rounding may drop digits from either, but never reverses them. -/
theorem val_sub?_le_val_add? {a b l u : Decimal} (hb : 0 ≤ b.val)
    (hl : a.sub? b = some l) (hu : a.add? b = some u) (hpos : 0 < l.val) : l.val ≤ u.val := by
  obtain ⟨l', hl', hval, -⟩ := sub?_eq_some hl
  rw [← hval] at hpos ⊢
  exact val_add?_neg_le_val_add? hb hl' hu hpos

end Decimal

end RobotTrading
