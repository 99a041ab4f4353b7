import Mathlib.Tactic.IntervalCases
import RobotTrading.Proofs.Decimal.Sum
import RobotTrading.Proofs.Trading.Client

/-!
# Recording deals

A completed deal is recorded on its robot by adding the profit to the yield and
stepping the deal counter. The two change together: a record either gives the
robot with both updated and every other field as it was, or fails and gives no
robot, so that the caller keeps the one it had. It is refused as untradable
exactly when the yield or the counter is unset.

Neither update is the plain one. The yield is a 96-bit decimal: a sum whose
coefficient, at the finer of the two scales, does not fit loses fraction digits,
rounding half to even, and a sum that does not fit even as an integer
overflows. The counter is a signed 64-bit integer; below its largest value it
steps by one, and the statements here say nothing of a record at the largest
count. So a record adds its profit exactly only while the sum fits, and a run of
records adds up its profits and its number of deals only while no partial sum
rounds and the counter stays in range.

## Main statements

- `Robot.recordDeal_eq_notTradable_iff` — refused exactly when a result is unset.
- `Robot.recordDeal_cases` — a record with both results set.
- `Robot.foldlM_recordDeal_of_fits` — a run of records that neither rounds nor wraps.
- `Robot.recordDeal_adds_profit` — the three together, below the largest count.
- `Robot.recordDeal_loses_small_profit` — a record that rounds its profit away.
-/

namespace RobotTrading

namespace Robot

/-- Setting the results of a robot to what they are gives the robot back. -/
theorem with_results_self {r : Robot} {y : Decimal} {n : Int} (hy : r.factYield = some y)
    (hn : r.dealsCount = some n) : { r with factYield := some y, dealsCount := some n } = r := by
  cases r
  simp only at hy hn
  subst hy hn
  rfl

/-- **Refused exactly when a result is unset**: a record fails as untradable when the yield or the
    counter is unset, and otherwise adds the profit or overflows. -/
theorem recordDeal_eq_notTradable_iff (r : Robot) (p : Decimal) :
    r.recordDeal p = .error (.notTradable (.notTradable r.robotId)) ↔
      r.factYield = none ∨ r.dealsCount = none := by
  rcases hy : r.factYield with _ | y
  · simp [recordDeal, hy]
  · rcases hn : r.dealsCount with _ | n
    · simp [recordDeal, hy, hn]
    · rcases hsum : y.add? p with _ | y' <;> simp [recordDeal, hy, hn, hsum]

/-- **A record with both results set** either adds the profit to the yield and steps the counter,
    leaving every other field as it was, or overflows. The new yield is within half a unit of its
    last digit of the exact sum, and is the exact sum when that fits 96 bits at the finer of the
    two scales; an overflow happens only for a sum of magnitude at least `2 ^ 96 - 1/2`. -/
theorem recordDeal_cases {r : Robot} {y : Decimal} {n : Int} (hy : r.factYield = some y)
    (hn : r.dealsCount = some n) (p : Decimal) :
    (∃ y', r.recordDeal p = .ok { r with factYield := some y', dealsCount := some (counterNext n) } ∧
        |y'.val - (y.val + p.val)| ≤ 1 / (2 * 10 ^ y'.scale) ∧
        (|y.val + p.val| * 10 ^ max y.scale p.scale < 2 ^ 96 → y'.val = y.val + p.val)) ∨
      (r.recordDeal p = .error .yieldOverflow ∧ 2 ^ 96 - 1 / 2 ≤ |y.val + p.val|) := by
  rcases hsum : y.add? p with _ | y'
  · -- the sum overflows
    right
    exact ⟨by simp only [recordDeal, hy, hn, hsum], Decimal.le_abs_of_add?_eq_none hsum⟩
  · left
    refine ⟨y', by simp only [recordDeal, hy, hn, hsum], Decimal.abs_val_add?_sub_le hsum,
      fun hfit => ?_⟩
    obtain ⟨c, hc, hval⟩ := Decimal.val_add?_of_fits hfit
    rw [hsum, Option.some_inj] at hc
    rw [hc, hval]

/-- **A run of records that neither rounds nor wraps.** Profits recorded one after another, with
    the yield and every profit at most `S` fraction digits, every partial sum fitting 96 bits at
    scale `S` and the counter ending in range, all succeed. Together they add the sum of the
    profits to the yield and their number to the counter, and leave every other field as it was.

    By induction on the profits: the first record is exact by `Decimal.val_add?_of_fits`, and the
    yield it gives is again at most `S` fraction digits, so the rest of the run starts from a robot
    of the same kind. -/
theorem foldlM_recordDeal_of_fits {S : Nat} (ps : List Decimal) {r : Robot} {y : Decimal} {n : Int}
    (hy : r.factYield = some y) (hn : r.dealsCount = some n) (hyS : y.scale ≤ S)
    (hpS : ∀ q ∈ ps, q.scale ≤ S)
    (hsums : ∀ j ≤ ps.length, |y.val + ((ps.take j).map (·.val)).sum| * 10 ^ S < 2 ^ 96)
    (hcount : n + ps.length ≤ int64Max) :
    ∃ y', ps.foldlM recordDeal r =
        .ok { r with factYield := some y', dealsCount := some (n + ps.length) } ∧
      y'.val = y.val + (ps.map (·.val)).sum := by
  induction ps generalizing r y n with
  | nil =>
    refine ⟨y, ?_, by simp⟩
    rw [List.length_nil, Nat.cast_zero, add_zero, with_results_self hy hn]
    rfl
  | cons q ps ih =>
    have hq : q.scale ≤ S := hpS q List.mem_cons_self
    -- the first record fits, so it is exact, and the counter is below its largest value
    have hfit : |y.val + q.val| * 10 ^ max y.scale q.scale < 2 ^ 96 := by
      have h₁ := hsums 1 (by simp)
      simp only [List.take_succ_cons, List.take_zero, List.map_cons, List.map_nil, List.sum_cons,
        List.sum_nil, add_zero] at h₁
      calc |y.val + q.val| * 10 ^ max y.scale q.scale
          ≤ |y.val + q.val| * 10 ^ S := by
            gcongr
            · norm_num
            · exact max_le hyS hq
        _ < 2 ^ 96 := h₁
    obtain ⟨y₁, hsum₁, hval₁⟩ := Decimal.val_add?_of_fits hfit
    have hlen : n + ((q :: ps).length : Int) = n + 1 + ps.length := by simp; omega
    have hnext : counterNext n = n + 1 := counterNext_of_ne (by omega)
    have hrec : r.recordDeal q =
        .ok { r with factYield := some y₁, dealsCount := some (n + 1) } := by
      simp only [recordDeal, hy, hn, hsum₁, hnext]
    -- the rest of the run starts from the robot the first record gives
    have hsums₁ : ∀ j ≤ ps.length, |y₁.val + ((ps.take j).map (·.val)).sum| * 10 ^ S < 2 ^ 96 := by
      intro j hj
      have h := hsums (j + 1) (by simp; omega)
      rwa [List.take_succ_cons, List.map_cons, List.sum_cons, ← add_assoc, ← hval₁] at h
    obtain ⟨y', hrun, hval'⟩ := ih (r := { r with factYield := some y₁, dealsCount := some (n + 1) })
      rfl rfl ((Decimal.scale_add?_le hsum₁).trans (max_le hyS hq))
      (fun q' hq' => hpS q' (List.mem_cons_of_mem _ hq')) hsums₁ (by omega)
    refine ⟨y', ?_, by rw [hval', hval₁, List.map_cons, List.sum_cons, add_assoc]⟩
    rw [List.foldlM_cons, hrec, hlen]
    exact hrun

/-- **Recording a deal.** A record is refused as untradable exactly when the yield or the counter
    is unset. With both set and the counter below its largest value, it either gives the robot with
    the profit added to the yield, the counter one up and every other field as it was, or it
    overflows and gives no robot, for a sum of magnitude at least `2 ^ 96 - 1/2` only. The new
    yield is within half a unit of its last digit of the exact sum, and is exact when the sum fits
    96 bits at the finer of the two scales. Profits recorded one after another, with no partial
    sum that rounds and a counter that stays in range, all succeed and add exactly their sum and
    their number. -/
theorem recordDeal_adds_profit (r : Robot) :
    (∀ p, r.recordDeal p = .error (.notTradable (.notTradable r.robotId)) ↔
      r.factYield = none ∨ r.dealsCount = none) ∧
    ∀ y n, r.factYield = some y → r.dealsCount = some n →
      (n < int64Max → ∀ p,
        (∃ y', r.recordDeal p = .ok { r with factYield := some y', dealsCount := some (n + 1) } ∧
            |y'.val - (y.val + p.val)| ≤ 1 / (2 * 10 ^ y'.scale) ∧
            (|y.val + p.val| * 10 ^ max y.scale p.scale < 2 ^ 96 → y'.val = y.val + p.val)) ∨
          (r.recordDeal p = .error .yieldOverflow ∧ 2 ^ 96 - 1 / 2 ≤ |y.val + p.val|)) ∧
      ∀ (ps : List Decimal) (S : Nat), y.scale ≤ S → (∀ q ∈ ps, q.scale ≤ S) →
        (∀ j ≤ ps.length, |y.val + ((ps.take j).map (·.val)).sum| * 10 ^ S < 2 ^ 96) →
        n + ps.length ≤ int64Max →
        ∃ y', ps.foldlM recordDeal r =
            .ok { r with factYield := some y', dealsCount := some (n + ps.length) } ∧
          y'.val = y.val + (ps.map (·.val)).sum := by
  refine ⟨recordDeal_eq_notTradable_iff r, fun y n hy hn => ⟨fun hlt p => ?_,
    fun ps _ hyS hpS hsums hcount => foldlM_recordDeal_of_fits ps hy hn hyS hpS hsums hcount⟩⟩
  -- below the largest count the counter's step is the plain one
  rw [← counterNext_of_ne hlt.ne]
  exact recordDeal_cases hy hn p

/-- A fresh tradable robot records a profit of 17 and then a loss of 2.5: its yield becomes 14.5
    and its count 2. -/
theorem recordDeal_adds_profit_twice :
    let r := (Robot.new 7 10).withThresholds (Decimal.ofNat64 100 (by decide))
      (Decimal.ofNat64 110 (by decide))
    let ps : List Decimal := [Decimal.ofNat64 17 (by decide), ⟨true, 25, 1, by decide, by decide⟩]
    ∃ y', ps.foldlM recordDeal r = .ok { r with factYield := some y', dealsCount := some 2 } ∧
      y'.val = 29 / 2 := by
  intro r ps
  -- the partial sums 0, 17 and 14.5 are far from the bound
  have hsums : ∀ j ≤ ps.length, |Decimal.zero.val + ((ps.take j).map (·.val)).sum| * 10 ^ 1 <
      2 ^ 96 := by
    intro j hj
    have hj₂ : j ≤ 2 := hj
    interval_cases j <;> norm_num [ps, Decimal.val, Decimal.mantissa, Decimal.zero, Decimal.ofNat64]
  obtain ⟨y', hrun, hval⟩ := ((recordDeal_adds_profit r).2 Decimal.zero 0 rfl rfl).2 ps 1
    (by decide) (by decide) hsums (by decide)
  refine ⟨y', hrun, ?_⟩
  rw [hval]
  norm_num [ps, Decimal.val, Decimal.mantissa, Decimal.zero, Decimal.ofNat64]

/-- **A record that loses its profit.** A robot with yield 10 and no deals yet records a profit of
    `10 ^ -28`. The exact sum has 30 digits, too many for 96 bits at 28 fraction digits, so it is
    rounded back to 10, while the count goes to 1. -/
theorem recordDeal_loses_small_profit :
    let ten := Decimal.ofNat64 10 (by decide)
    let r := { Robot.new 1 42 with factYield := some ten, dealsCount := some 0 }
    let p : Decimal := ⟨false, 1, 28, by decide, by decide⟩
    ∃ y', r.recordDeal p = .ok { r with factYield := some y', dealsCount := some 1 } ∧
      y'.val = 10 ∧ y'.val ≠ ten.val + p.val := by
  intro ten r p
  have hsum : ten.add? p = some ⟨false, 10 ^ 28, 27, by decide, by decide⟩ := by decide
  have hval : Decimal.val ⟨false, 10 ^ 28, 27, by decide, by decide⟩ = 10 := by
    norm_num [Decimal.val, Decimal.mantissa]
  refine ⟨_, by simp only [r, recordDeal, hsum]; rfl, hval, ?_⟩
  rw [hval]
  norm_num [ten, p, Decimal.val, Decimal.mantissa, Decimal.ofNat64]

end Robot

end RobotTrading
