import RobotTrading.Proofs.Deal.Run

/-!
# One tick of the deal machine, case by case

What a tick does is decided by the machine's state, its policy and two
comparisons of values: the buy quote with the buy threshold and the sell quote
with the sell threshold. `DealMachine.TickStep` lists the six cases, each with
the machine and the outcome it leads to, and `DealMachine.onTick` computes
exactly that relation.

Both comparisons include the threshold: a buy quote at the buy threshold buys,
a sell quote at the sell threshold sells. They compare values, so a quote of
`100.00` meets a threshold of `100`.

## Main definitions

- `DealMachine.TickStep` — the six ways a tick goes.

## Main statements

- `DealMachine.tickStep_onTick`, `DealMachine.TickStep.onTick_eq` — the machine takes the step
  the table gives, and only that one.
- `DealMachine.onTick_follows_table` — one tick in full: the table, the policy kept, the last
  deal set by a completed deal only, and no new leg on a completing tick.
-/

namespace RobotTrading

namespace DealMachine

/-- The six ways a tick with buy quote `b` and sell quote `s` goes under thresholds `t`, each
    with the machine and the outcome it leads to. Quotes meet their thresholds by value,
    inclusively. -/
inductive TickStep (t : Thresholds) (b s : Price) : DealMachine → DealMachine × TickOutcome → Prop
  /-- Buying, the buy quote is above the threshold: nothing happens. -/
  | buyMissed (m : DealMachine) (hm : m.state = .buying) (hb : t.buy.value.val < b.value.val) :
      TickStep t b s m (m, .idle)
  /-- Buying one leg per tick, the buy quote meets the threshold: a leg opens at it. -/
  | buyOpens (m : DealMachine) (hm : m.state = .buying) (hb : b.value.val ≤ t.buy.value.val)
      (hp : m.policy = .oneLegPerTick) :
      TickStep t b s m ({ m with state := .selling b }, .bought b)
  /-- Buying under same-tick round trips, the buy quote meets its threshold and the sell quote
      misses its own: a leg opens at the buy quote. -/
  | roundTripHolds (m : DealMachine) (hm : m.state = .buying) (hb : b.value.val ≤ t.buy.value.val)
      (hp : m.policy = .sameTickRoundTrip) (hs : s.value.val < t.sell.value.val) :
      TickStep t b s m ({ m with state := .selling b }, .bought b)
  /-- Buying under same-tick round trips, both quotes meet their thresholds: the tick buys and
      sells, and the machine buys again. -/
  | roundTripCompletes (m : DealMachine) (hm : m.state = .buying)
      (hb : b.value.val ≤ t.buy.value.val) (hp : m.policy = .sameTickRoundTrip)
      (hs : t.sell.value.val ≤ s.value.val) :
      TickStep t b s m ({ m with state := .buying, lastDeal := some ⟨b, s⟩ }, .completed ⟨b, s⟩)
  /-- Selling, the sell quote is below the threshold: the leg stays open. -/
  | sellMissed (m : DealMachine) (p : Price) (hm : m.state = .selling p)
      (hs : s.value.val < t.sell.value.val) :
      TickStep t b s m (m, .idle)
  /-- Selling, the sell quote meets the threshold: the deal completes at the leg's price, and the
      machine buys again. -/
  | sellCloses (m : DealMachine) (p : Price) (hm : m.state = .selling p)
      (hs : t.sell.value.val ≤ s.value.val) :
      TickStep t b s m ({ m with state := .buying, lastDeal := some ⟨p, s⟩ }, .completed ⟨p, s⟩)

variable {m : DealMachine} {t : Thresholds} {b s : Price}

theorem above_eq_false_iff : b.above t.buy = false ↔ b.value.val ≤ t.buy.value.val := by
  rw [← Bool.not_eq_true, Price.above_iff, not_lt]

theorem atLeast_eq_false_iff : s.atLeast t.sell = false ↔ s.value.val < t.sell.value.val := by
  rw [← Bool.not_eq_true, Price.atLeast_iff, not_le]

/-- **The machine takes a step of the table.** Each of the five cases of `onTick_cases` is a case
    of the table; the open-leg case splits by policy into `buyOpens` and `roundTripHolds`. -/
theorem tickStep_onTick (m : DealMachine) (t : Thresholds) (b s : Price) :
    TickStep t b s m (m.onTick t b s) := by
  rcases onTick_cases m t b s with
    ⟨hm, hb, he⟩ | ⟨hm, hb, hp, he⟩ | ⟨hm, hb, hp, hs, he⟩ | ⟨p, hm, hs, he⟩ | ⟨p, hm, hs, he⟩
  · rw [he]
    exact .buyMissed m hm ((Price.above_iff _ _).1 hb)
  · rw [he]
    obtain hpol | hpol : m.policy = .oneLegPerTick ∨ m.policy = .sameTickRoundTrip := by
      cases m.policy <;> simp
    · exact .buyOpens m hm (above_eq_false_iff.1 hb) hpol
    · have hs : s.atLeast t.sell = false := hp.resolve_left (by simp [hpol])
      exact .roundTripHolds m hm (above_eq_false_iff.1 hb) hpol (atLeast_eq_false_iff.1 hs)
  · rw [he]
    exact .roundTripCompletes m hm (above_eq_false_iff.1 hb) hp ((Price.atLeast_iff _ _).1 hs)
  · rw [he]
    exact .sellCloses m p hm ((Price.atLeast_iff _ _).1 hs)
  · rw [he]
    exact .sellMissed m p hm (atLeast_eq_false_iff.1 hs)

/-- **The machine takes no other step.** The cases of the table exclude each other, so the step
    of the table is the one the machine computes. -/
theorem TickStep.onTick_eq {r : DealMachine × TickOutcome} (h : TickStep t b s m r) :
    m.onTick t b s = r := by
  cases h with
  | buyMissed hm hb =>
    have ha : b.above t.buy = true := (Price.above_iff _ _).2 hb
    simp [onTick, hm, ha]
  | buyOpens hm hb hp =>
    have ha : b.above t.buy = false := above_eq_false_iff.2 hb
    simp [onTick, hm, ha, hp]
  | roundTripHolds hm hb hp hs =>
    have ha : b.above t.buy = false := above_eq_false_iff.2 hb
    have hl : s.atLeast t.sell = false := atLeast_eq_false_iff.2 hs
    simp [onTick, trySell, hm, ha, hp, hl]
  | roundTripCompletes hm hb hp hs =>
    have ha : b.above t.buy = false := above_eq_false_iff.2 hb
    have hl : s.atLeast t.sell = true := (Price.atLeast_iff _ _).2 hs
    simp [onTick, trySell, hm, ha, hp, hl]
  | sellMissed p hm hs =>
    have hl : s.atLeast t.sell = false := atLeast_eq_false_iff.2 hs
    -- the leg is written back as it was
    simp only [onTick, trySell, hm, hl]
    rw [← hm]
    rfl
  | sellCloses p hm hs =>
    have hl : s.atLeast t.sell = true := (Price.atLeast_iff _ _).2 hs
    simp [onTick, trySell, hm, hl]

/-- A tick that completes a deal leaves the machine buying. -/
theorem TickStep.buying_of_completed {r : DealMachine × TickOutcome} (h : TickStep t b s m r)
    {d : CompletedDeal} (hd : r.2 = .completed d) : r.1.state = .buying := by
  -- the two completing rows leave the machine buying; the others complete nothing
  cases h with
  | roundTripCompletes | sellCloses => rfl
  | _ => cases hd

/-- **One tick, in full.** For either policy, every state, all thresholds and all quotes, the
    tick goes exactly as the table `TickStep` says; the policy is kept; the last deal becomes the
    tick's deal when the tick completes one and stays otherwise; and a tick that completes a deal
    leaves the machine buying, so it never opens the next leg. -/
theorem onTick_follows_table (m : DealMachine) (t : Thresholds) (b s : Price) :
    (∀ r, m.onTick t b s = r ↔ TickStep t b s m r) ∧
    (m.onTick t b s).1.policy = m.policy ∧
    (m.onTick t b s).1.lastDeal = (m.onTick t b s).2.deal?.or m.lastDeal ∧
    ∀ d, (m.onTick t b s).2 = .completed d → (m.onTick t b s).1.state = .buying := by
  refine ⟨fun r => ⟨?_, TickStep.onTick_eq⟩, onTick_policy m t b s, onTick_lastDeal m t b s,
    fun d hd => (tickStep_onTick m t b s).buying_of_completed hd⟩
  rintro rfl
  exact tickStep_onTick m t b s

/-- A buy quote of `100.00` meets a buy threshold of `100`: the comparison is by value. -/
example :
    let p100 : Price := ⟨Decimal.ofNat64 100 (by decide)⟩
    let p110 : Price := ⟨Decimal.ofNat64 110 (by decide)⟩
    let q : Price := ⟨⟨false, 10000, 2, by decide, by decide⟩⟩
    (new .oneLegPerTick).onTick ⟨p100, p110⟩ q p110 =
      (⟨.oneLegPerTick, .selling q, none⟩, .bought q) := by
  decide

end DealMachine

end RobotTrading
