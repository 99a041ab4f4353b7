import RobotTrading.Proofs.Decimal.Half
import RobotTrading.Proofs.Market.Positive

/-!
# The quotes of the random walk

The random walk quotes `buy = mid + spread / 2` and `sell = mid - spread / 2` in decimal
arithmetic: the half spread, the sum and the difference are each a decimal, rounded where the
exact value has none. A subscription checks the quotes at the start price, refuses a spread
that leaves either of them at or below zero, and answers with a first tick quoting the start
price; a zero period delivers no tick.

With a nonnegative spread the sell quote never lies above the buy quote, rounding included,
so a subscription is refused exactly when its sell quote is not positive. Where half the
spread and the start price plus and minus it are decimals nothing is rounded, and the first
tick straddles the start price exactly: its quotes are the spread apart and symmetric about
the start price. Elsewhere rounding can close the spread entirely: halving a spread of
`10 ^ -28` gives zero, and the walk then quotes its start price on both sides.

## Main definitions

- `RandomWalk.ExactAtStart` — half the spread and the start price plus and minus it are
  decimals.

## Main statements

- `RandomWalk.quotes_eq_ok_some_iff` — the quotes at a mid price, when both are prices.
- `RandomWalk.firstTick_eq_ok_iff` — what a subscription answers.
- `RandomWalk.subscribes_iff_of_exact`, `RandomWalk.firstTick_exact` — where nothing is rounded.
- `RandomWalk.firstTick_straddles_start` — subscriptions and first ticks, in general and where
  nothing is rounded.
- `RandomWalk.tiny_spread_rounds_away` — a spread of `10 ^ -28` quotes no spread at all.
-/

namespace RobotTrading

namespace Price

theorem ofDecimal_of_pos {d : Decimal} (h : 0 < d.val) : ofDecimal d = .ok ⟨d⟩ :=
  ofDecimal_eq_ok_iff.2 ⟨rfl, h⟩

theorem ofDecimal_of_nonpos {d : Decimal} (h : ¬ 0 < d.val) :
    ofDecimal d = .error (.nonPositivePrice d) := by
  rw [← Decimal.isPos_iff] at h
  simp [ofDecimal, h]

end Price

namespace RandomWalk

/-- The walk quotes its start price without rounding: half the spread, and the start price plus
    and minus it, are decimals. -/
def ExactAtStart (w : RandomWalk) : Prop :=
  Decimal.Representable (w.spread.val / 2) ∧
    Decimal.Representable (w.startPrice.val + w.spread.val / 2) ∧
    Decimal.Representable (w.startPrice.val - w.spread.val / 2)

/-- **The quotes at a mid price** are two prices exactly when the decimal sum and difference of
    the mid price and the half spread both exist and are above zero. -/
theorem quotes_eq_ok_some_iff {w : RandomWalk} {mid : Decimal} {b l : Price} :
    w.quotes mid = .ok (some (b, l)) ↔
      mid.add? w.spread.half = some b.value ∧ mid.sub? w.spread.half = some l.value ∧
        0 < b.value.val ∧ 0 < l.value.val := by
  obtain ⟨b⟩ := b
  obtain ⟨l⟩ := l
  unfold quotes Decimal.add Decimal.sub
  dsimp only
  -- the buy sum is formed and checked before the sell difference
  rcases hbuy : mid.add? w.spread.half with _ | buy
  · simp [bind, Except.bind]
  by_cases hb : 0 < buy.val
  · rcases hsell : mid.sub? w.spread.half with _ | sell
    · simp [bind, Except.bind, Price.ofDecimal_of_pos hb]
    by_cases hl : 0 < sell.val
    · simp [bind, Except.bind, pure, Except.pure, Price.ofDecimal_of_pos hb,
        Price.ofDecimal_of_pos hl, eq_comm]
      rintro rfl rfl
      exact ⟨hb, hl⟩
    · simp [bind, Except.bind, pure, Except.pure, Price.ofDecimal_of_pos hb,
        Price.ofDecimal_of_nonpos hl]
      rintro rfl rfl -
      exact not_lt.1 hl
  · simp [bind, Except.bind, pure, Except.pure, Price.ofDecimal_of_nonpos hb]
    rintro rfl - hb'
    exact absurd hb' hb

/-- **A subscription** is answered, without a refusal or an overflow, exactly when the start
    price has two prices as quotes; the first tick quotes them for the subscribed symbol, and
    a zero period delivers none. -/
theorem firstTick_eq_ok_iff {w : RandomWalk} {s : Symbol} {t : Option PriceTick} :
    w.firstTick s = .ok (.ok t) ↔ ∃ b l, w.quotes w.startPrice = .ok (some (b, l)) ∧
      t = if w.intervalMs = 0 then none else some ⟨s, b, l, .now⟩ := by
  unfold firstTick
  rcases hq : w.quotes w.startPrice with e | _ | ⟨b, l⟩
  · simp [bind, Except.bind]
  · simp [bind, Except.bind, pure, Except.pure]
  · by_cases hi : w.intervalMs = 0 <;>
      simp [bind, Except.bind, pure, Except.pure, hi, eq_comm]

variable {w : RandomWalk} {s : Symbol}

/-- With a nonnegative spread a positive sell quote makes the buy quote a price too. -/
theorem quotes_of_sell_pos (hspread : 0 ≤ w.spread.val) {mid buy sell : Decimal}
    (hbuy : mid.add? w.spread.half = some buy) (hsell : mid.sub? w.spread.half = some sell)
    (hpos : 0 < sell.val) : w.quotes mid = .ok (some (⟨buy⟩, ⟨sell⟩)) ∧ sell.val ≤ buy.val := by
  have hle := Decimal.val_sub?_le_val_add? (Decimal.val_half_nonneg hspread) hsell hbuy hpos
  exact ⟨quotes_eq_ok_some_iff.2 ⟨hbuy, hsell, lt_of_lt_of_le hpos hle, hpos⟩, hle⟩

/-- A subscription succeeds exactly when both decimal quotes at the start price exist and the
    sell quote is positive. -/
theorem subscribes_iff (hspread : 0 ≤ w.spread.val) :
    (∃ t, w.firstTick s = .ok (.ok t)) ↔
      ∃ buy sell, w.startPrice.add? w.spread.half = some buy ∧
        w.startPrice.sub? w.spread.half = some sell ∧ 0 < sell.val := by
  constructor
  · rintro ⟨t, ht⟩
    obtain ⟨b, l, hq, -⟩ := firstTick_eq_ok_iff.1 ht
    obtain ⟨hbuy, hsell, -, hl⟩ := quotes_eq_ok_some_iff.1 hq
    exact ⟨b.value, l.value, hbuy, hsell, hl⟩
  · rintro ⟨buy, sell, hbuy, hsell, hpos⟩
    exact ⟨_, firstTick_eq_ok_iff.2 ⟨_, _, (quotes_of_sell_pos hspread hbuy hsell hpos).1, rfl⟩⟩

/-- The first tick quotes the subscribed symbol with the two decimal quotes, the sell quote
    positive and at most the buy quote. -/
theorem firstTick_quotes (hspread : 0 ≤ w.spread.val) {t : PriceTick}
    (ht : w.firstTick s = .ok (.ok (some t))) :
    t.symbol = s ∧ w.startPrice.add? w.spread.half = some t.buy.value ∧
      w.startPrice.sub? w.spread.half = some t.sell.value ∧
      0 < t.sell.value.val ∧ t.sell.value.val ≤ t.buy.value.val := by
  obtain ⟨b, l, hq, hb⟩ := firstTick_eq_ok_iff.1 ht
  split_ifs at hb
  obtain rfl := Option.some.inj hb
  obtain ⟨hbuy, hsell, -, hl⟩ := quotes_eq_ok_some_iff.1 hq
  exact ⟨rfl, hbuy, hsell, hl, (quotes_of_sell_pos hspread hbuy hsell hl).2⟩

/-- Where nothing is rounded, the half spread is half the spread and both quotes exist, exactly
    the start price plus and minus it. -/
theorem exact_quotes (hx : w.ExactAtStart) :
    w.spread.half.val = w.spread.val / 2 ∧
      (∃ buy, w.startPrice.add? w.spread.half = some buy ∧
        buy.val = w.startPrice.val + w.spread.val / 2) ∧
      ∃ sell, w.startPrice.sub? w.spread.half = some sell ∧
        sell.val = w.startPrice.val - w.spread.val / 2 := by
  obtain ⟨hhalf, hplus, hminus⟩ := hx
  have hh := Decimal.val_half_of_representable hhalf
  refine ⟨hh, ?_, ?_⟩
  · obtain ⟨buy, hbuy, hv⟩ := Decimal.val_add?_of_representable
      (show Decimal.Representable (w.startPrice.val + w.spread.half.val) by rwa [hh])
    exact ⟨buy, hbuy, by rw [hv, hh]⟩
  · obtain ⟨sell, hsell, hv⟩ := Decimal.val_sub?_of_representable
      (show Decimal.Representable (w.startPrice.val - w.spread.half.val) by rwa [hh])
    exact ⟨sell, hsell, by rw [hv, hh]⟩

/-- Where nothing is rounded, a subscription succeeds exactly when `start - spread / 2` is
    positive. -/
theorem subscribes_iff_of_exact (hspread : 0 ≤ w.spread.val) (hx : w.ExactAtStart) :
    (∃ t, w.firstTick s = .ok (.ok t)) ↔ 0 < w.startPrice.val - w.spread.val / 2 := by
  obtain ⟨-, ⟨buy, hbuy, -⟩, ⟨sell, hsell, hsv⟩⟩ := exact_quotes hx
  rw [subscribes_iff hspread, ← hsv]
  constructor
  · rintro ⟨buy', sell', -, hsell', hpos⟩
    rw [hsell] at hsell'
    rwa [Option.some.inj hsell']
  · exact fun hpos => ⟨buy, sell, hbuy, hsell, hpos⟩

/-- Where nothing is rounded, the first tick quotes `start ± spread / 2` exactly. -/
theorem firstTick_exact (hspread : 0 ≤ w.spread.val) (hx : w.ExactAtStart) {t : PriceTick}
    (ht : w.firstTick s = .ok (.ok (some t))) :
    t.buy.value.val = w.startPrice.val + w.spread.val / 2 ∧
      t.sell.value.val = w.startPrice.val - w.spread.val / 2 := by
  obtain ⟨-, ⟨buy, hbuy, hbv⟩, ⟨sell, hsell, hsv⟩⟩ := exact_quotes hx
  obtain ⟨-, hbuy', hsell', -, -⟩ := firstTick_quotes hspread ht
  rw [hbuy] at hbuy'
  rw [hsell] at hsell'
  rw [← Option.some.inj hbuy', ← Option.some.inj hsell']
  exact ⟨hbv, hsv⟩

/-- **The first tick straddles the start price.** For every walk with a nonnegative spread and
    every symbol: a subscription succeeds exactly when the decimal quotes `start + spread / 2`
    and `start - spread / 2` exist and the sell quote is positive; with a nonzero period it
    delivers a first tick; the first tick quotes the symbol with those two decimals, the
    positive sell quote at most the buy quote and each within half a unit of its last digit of
    the start price plus or minus the half spread. Where half the spread and the start price
    plus and minus it are decimals, a subscription succeeds exactly when `start - spread / 2`
    is positive, and the first tick quotes `start ± spread / 2` exactly, the spread apart and
    symmetric about the start price. -/
theorem firstTick_straddles_start (w : RandomWalk) (s : Symbol) (hspread : 0 ≤ w.spread.val) :
    ((∃ t, w.firstTick s = .ok (.ok t)) ↔
      ∃ buy sell, w.startPrice.add? w.spread.half = some buy ∧
        w.startPrice.sub? w.spread.half = some sell ∧ 0 < sell.val) ∧
    (w.intervalMs ≠ 0 → ∀ t, w.firstTick s = .ok (.ok t) → t.isSome) ∧
    (∀ t, w.firstTick s = .ok (.ok (some t)) →
      t.symbol = s ∧ w.startPrice.add? w.spread.half = some t.buy.value ∧
      w.startPrice.sub? w.spread.half = some t.sell.value ∧
      0 < t.sell.value.val ∧ t.sell.value.val ≤ t.buy.value.val ∧
      |t.buy.value.val - (w.startPrice.val + w.spread.half.val)| ≤
        1 / (2 * 10 ^ t.buy.value.scale) ∧
      |t.sell.value.val - (w.startPrice.val - w.spread.half.val)| ≤
        1 / (2 * 10 ^ t.sell.value.scale)) ∧
    (w.ExactAtStart →
      ((∃ t, w.firstTick s = .ok (.ok t)) ↔ 0 < w.startPrice.val - w.spread.val / 2) ∧
      ∀ t, w.firstTick s = .ok (.ok (some t)) →
        t.buy.value.val = w.startPrice.val + w.spread.val / 2 ∧
        t.sell.value.val = w.startPrice.val - w.spread.val / 2 ∧
        t.buy.value.val - t.sell.value.val = w.spread.val ∧
        t.buy.value.val - w.startPrice.val = w.startPrice.val - t.sell.value.val) := by
  refine ⟨subscribes_iff hspread, ?_, ?_, ?_⟩
  · intro hi t ht
    obtain ⟨b, l, -, rfl⟩ := firstTick_eq_ok_iff.1 ht
    simp [hi]
  · intro t ht
    obtain ⟨hsym, hbuy, hsell, hpos, hle⟩ := firstTick_quotes hspread ht
    exact ⟨hsym, hbuy, hsell, hpos, hle, Decimal.abs_val_add?_sub_le hbuy,
      Decimal.abs_val_sub?_sub_le hsell⟩
  · intro hx
    refine ⟨subscribes_iff_of_exact hspread hx, fun t ht => ?_⟩
    obtain ⟨hb, hl⟩ := firstTick_exact hspread hx ht
    rw [hb, hl]
    refine ⟨rfl, rfl, ?_, ?_⟩ <;> ring

/-- The default walk, mid 100 and spread 0.5: its first tick for AAPL quotes the symbol, a
    positive sell quote below the buy quote, both within half a unit of their last digit of
    `100 ± 0.25`. -/
theorem firstTick_straddles_start_default :
    0 ≤ RandomWalk.default.spread.val ∧
    ∀ t, RandomWalk.default.firstTick ⟨"AAPL"⟩ = .ok (.ok (some t)) →
      t.symbol = ⟨"AAPL"⟩ ∧ 0 < t.sell.value.val ∧ t.sell.value.val ≤ t.buy.value.val :=
  have hspread : 0 ≤ RandomWalk.default.spread.val := by
    unfold RandomWalk.default Decimal.oneHalf Decimal.val Decimal.mantissa
    norm_num
  ⟨hspread, fun t ht =>
    let h := (firstTick_straddles_start RandomWalk.default ⟨"AAPL"⟩ hspread).2.2.1 t ht
    ⟨h.1, h.2.2.2.1, h.2.2.2.2.1⟩⟩

/-- **A spread of `10 ^ -28` quotes no spread.** Halving it rounds to zero, so at the start price
    7 both quotes are 7: the first tick quotes neither `7 + spread / 2` nor a spread apart. -/
theorem tiny_spread_rounds_away :
    let w : RandomWalk := ⟨⟨false, 7, 0, by decide, by decide⟩,
      ⟨false, 1, 28, by decide, by decide⟩, ⟨false, 1, 0, by decide, by decide⟩, 500⟩
    ∃ t, w.firstTick ⟨"AAPL"⟩ = .ok (.ok (some t)) ∧
      t.buy.value.val ≠ w.startPrice.val + w.spread.val / 2 ∧
      t.buy.value.val - t.sell.value.val ≠ w.spread.val := by
  intro w
  refine ⟨⟨⟨"AAPL"⟩, ⟨w.startPrice⟩, ⟨w.startPrice⟩, .now⟩, by decide, ?_, ?_⟩
  · norm_num [w, Decimal.val, Decimal.mantissa]
  · norm_num [w, Decimal.val, Decimal.mantissa]

end RandomWalk

end RobotTrading
