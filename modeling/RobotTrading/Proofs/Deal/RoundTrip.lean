import RobotTrading.Proofs.Deal.Run

/-!
# A same-tick round trip is a buy delivered twice

Under `sameTickRoundTrip` the tick that opens a leg is checked for the sell at
once. That is what the one-leg machine does when the same tick reaches it a
second time, right after it bought: the second delivery finds the leg open and
closes it when the sell quote meets its threshold, and otherwise leaves it open.
A tick that does not buy goes the same way under both policies, since only the
buying branch of a tick reads the policy.

So a round-trip machine is the one-leg machine with every buying tick delivered
twice, one step for one step and one run for one run. The one-leg run then has
two outcomes for each buying tick, the buy and the outcome of its second
delivery, and merging each such pair gives the round-trip run's outcome for that
tick. Both runs complete the same deals, in the same order.

## Main definitions

- `TickOutcome.redelivered` — the outcome of a tick that bought, merged with that of its second
  delivery.
- `TickOutcome.mergeRedelivered` — the outcomes of a run with every buy delivered twice, merged
  tick by tick.
- `DealMachine.redeliver` — a step that delivers the tick again when it bought.
- `DealMachine.doubleBuys` — the ticks as a machine receives them when every buying tick is
  delivered twice.

## Main statements

- `DealMachine.onTick_roundTrip` — one round-trip step is a one-leg step delivered twice.
- `DealMachine.run_roundTrip` — a round-trip run is the one-leg run with every buy delivered twice.
- `DealMachine.roundTrip_is_buy_delivered_twice` — both, with the deals the runs complete.
-/

namespace RobotTrading

namespace TickOutcome

/-- The outcome of a tick that bought, given the outcome `o₂` of its second delivery: the deal the
    second delivery completed, and the buy when it completed none. -/
def redelivered (o o₂ : TickOutcome) : TickOutcome :=
  match o₂ with
  | .completed d => .completed d
  | _ => o

/-- The outcomes of a run in which each buy is followed by the outcome of a second delivery of its
    tick, each buy merged with that outcome. -/
def mergeRedelivered : List TickOutcome → List TickOutcome
  | .bought p :: o₂ :: os => (bought p).redelivered o₂ :: mergeRedelivered os
  | o :: os => o :: mergeRedelivered os
  | [] => []

theorem deal?_redelivered (p : Price) (o₂ : TickOutcome) :
    ((bought p).redelivered o₂).deal? = o₂.deal? := by
  cases o₂ <;> rfl

theorem mergeRedelivered_of_ne_bought {o : TickOutcome} (h : ∀ p, o ≠ .bought p)
    (os : List TickOutcome) : mergeRedelivered (o :: os) = o :: mergeRedelivered os := by
  cases o with
  | bought p => exact absurd rfl (h p)
  | idle => rfl
  | completed d => rfl

/-- Merging the two outcomes of each redelivered buy keeps the completed deals: a buy completes
    none, so the pair completes what its second delivery completes. -/
theorem filterMap_deal?_mergeRedelivered (os : List TickOutcome) :
    (mergeRedelivered os).filterMap deal? = os.filterMap deal? := by
  fun_induction mergeRedelivered os with
  | case1 p o₂ os ih =>
    have hb : (bought p).deal? = none := rfl
    simp only [List.filterMap_cons, deal?_redelivered, ih, hb]
  | case2 o os hne ih =>
    -- a lone outcome, or a buy with nothing after it
    simp only [List.filterMap_cons, ih]
  | case3 => rfl

end TickOutcome

namespace DealMachine

/-- A step that delivers the tick a second time when it bought: the machine after the second
    delivery, and the two outcomes merged. Any other step is taken once. -/
def redeliver (m : DealMachine) (t : Thresholds) (b s : Price) : DealMachine × TickOutcome :=
  match m.onTick t b s with
  | (m', .bought p) => ((m'.onTick t b s).1, (TickOutcome.bought p).redelivered (m'.onTick t b s).2)
  | r => r

/-- The ticks as the machine `m` receives them when every tick that makes it buy is delivered
    twice in a row. -/
def doubleBuys (m : DealMachine) : List Tick → List Tick
  | [] => []
  | k :: ks =>
    match (m.onTick k.thresholds k.buy k.sell).2 with
    | .bought _ => k :: k :: doubleBuys (m.redeliver k.thresholds k.buy k.sell).1 ks
    | _ => k :: doubleBuys (m.redeliver k.thresholds k.buy k.sell).1 ks

variable {m : DealMachine} {t : Thresholds} {b s : Price}

theorem redeliver_of_bought {m' : DealMachine} {p : Price} (h : m.onTick t b s = (m', .bought p)) :
    m.redeliver t b s =
      ((m'.onTick t b s).1, (TickOutcome.bought p).redelivered (m'.onTick t b s).2) := by
  simp [redeliver, h]

theorem redeliver_of_ne_bought (h : ∀ p, (m.onTick t b s).2 ≠ .bought p) :
    m.redeliver t b s = m.onTick t b s := by
  unfold redeliver
  split
  · rename_i m' p hb
    exact absurd (by rw [hb]) (h p)
  · rfl

theorem redeliver_policy (m : DealMachine) (t : Thresholds) (b s : Price) :
    (m.redeliver t b s).1.policy = m.policy := by
  unfold redeliver
  split
  · rename_i m' p hb
    have hm' : m'.policy = m.policy := by simpa [hb] using onTick_policy m t b s
    simp only [onTick_policy, hm']
  · exact onTick_policy m t b s

/-- **One step.** A round-trip machine takes a tick as the one-leg machine in its state does when
    the tick is delivered to it twice after it bought: the state and last deal after the second
    delivery, and the deal of that delivery if it completed one, the buy otherwise. -/
theorem onTick_roundTrip (state : DealState) (last : Option CompletedDeal) (t : Thresholds)
    (b s : Price) :
    (⟨.sameTickRoundTrip, state, last⟩ : DealMachine).onTick t b s =
      let r := (⟨.oneLegPerTick, state, last⟩ : DealMachine).redeliver t b s
      (⟨.sameTickRoundTrip, r.1.state, r.1.lastDeal⟩, r.2) := by
  cases state with
  | buying =>
    cases ha : b.above t.buy
    · -- the leg opens; under one leg per tick the sell is checked on the second delivery
      cases hs : s.atLeast t.sell <;>
        simp [onTick, redeliver, trySell, ha, hs, TickOutcome.redelivered]
    · simp [onTick, redeliver, ha]
  | selling p =>
    -- an open leg is taken alike by both policies, and no buy is redelivered
    cases hs : s.atLeast t.sell <;> simp [onTick, redeliver, trySell, hs]

theorem doubleBuys_cons_of_bought {k : Tick} {ks : List Tick} {m' : DealMachine} {p : Price}
    (h : m.onTick k.thresholds k.buy k.sell = (m', .bought p)) :
    m.doubleBuys (k :: ks) = k :: k :: (m.redeliver k.thresholds k.buy k.sell).1.doubleBuys ks := by
  simp [doubleBuys, h]

theorem doubleBuys_cons_of_ne_bought {k : Tick} {ks : List Tick}
    (h : ∀ p, (m.onTick k.thresholds k.buy k.sell).2 ≠ .bought p) :
    m.doubleBuys (k :: ks) = k :: (m.redeliver k.thresholds k.buy k.sell).1.doubleBuys ks := by
  rcases ho : (m.onTick k.thresholds k.buy k.sell).2 with _ | p | d
  · simp [doubleBuys, ho]
  · exact absurd ho (h p)
  · simp [doubleBuys, ho]

/-- **A whole run.** The round-trip run from a one-leg machine's state and last deal is the
    one-leg machine's run with every buying tick delivered twice: the same final state and last
    deal, and the outcomes of that run with each buy merged with its second delivery. The
    induction is on the ticks, from any one-leg machine; each tick is one step of
    `onTick_roundTrip`, and the two deliveries of a buying tick are two steps of the one-leg
    run. -/
theorem run_roundTrip (hm : m.policy = .oneLegPerTick) (ks : List Tick) :
    (⟨.sameTickRoundTrip, m.state, m.lastDeal⟩ : DealMachine).run ks =
      (⟨.sameTickRoundTrip, (m.run (m.doubleBuys ks)).1.state,
          (m.run (m.doubleBuys ks)).1.lastDeal⟩,
        TickOutcome.mergeRedelivered (m.run (m.doubleBuys ks)).2) := by
  induction ks generalizing m with
  | nil => rfl
  | cons k ks ih =>
    obtain ⟨policy, state, last⟩ := m
    simp only at hm
    subst hm
    have hpol := redeliver_policy ⟨.oneLegPerTick, state, last⟩ k.thresholds k.buy k.sell
    rw [run_cons, onTick_roundTrip]
    simp only
    rw [ih hpol]
    by_cases hb : ∃ p, ((⟨.oneLegPerTick, state, last⟩ : DealMachine).onTick k.thresholds k.buy
        k.sell).2 = .bought p
    · -- the buy is delivered again: two steps of the one-leg run make the round-trip step
      obtain ⟨p, hp⟩ := hb
      have hone : (⟨.oneLegPerTick, state, last⟩ : DealMachine).onTick k.thresholds k.buy k.sell =
          (((⟨.oneLegPerTick, state, last⟩ : DealMachine).onTick k.thresholds k.buy k.sell).1,
            .bought p) := Prod.ext rfl hp
      rw [doubleBuys_cons_of_bought hone, run_cons, run_cons, hone, redeliver_of_bought hone]
      rfl
    · -- any other step is taken once, alike by both machines
      simp only [not_exists] at hb
      rw [doubleBuys_cons_of_ne_bought hb, run_cons, redeliver_of_ne_bought hb,
        TickOutcome.mergeRedelivered_of_ne_bought hb]

/-- **A same-tick round trip is a buy delivered twice.** For every state and last deal, all
    thresholds and quotes, a round-trip machine takes a tick as the one-leg machine with the same
    state and last deal does, followed, when it bought, by a second one-leg step on the same tick:
    the deal of that second step when it completed one and the buy otherwise, with the state and
    last deal the second step leaves. Hence for every sequence of ticks the round-trip run ends
    in the state and last deal of the one-leg run over the ticks with every buying tick delivered
    twice, its outcomes are that run's with each buy merged with its second delivery, and both
    runs complete the same deals in the same order. -/
theorem roundTrip_is_buy_delivered_twice (state : DealState) (last : Option CompletedDeal) :
    (∀ t b s, (⟨.sameTickRoundTrip, state, last⟩ : DealMachine).onTick t b s =
      let r := (⟨.oneLegPerTick, state, last⟩ : DealMachine).redeliver t b s
      (⟨.sameTickRoundTrip, r.1.state, r.1.lastDeal⟩, r.2)) ∧
    ∀ ks, let m : DealMachine := ⟨.oneLegPerTick, state, last⟩
      let r := m.run (m.doubleBuys ks)
      (⟨.sameTickRoundTrip, state, last⟩ : DealMachine).run ks =
          (⟨.sameTickRoundTrip, r.1.state, r.1.lastDeal⟩, TickOutcome.mergeRedelivered r.2) ∧
        ((⟨.sameTickRoundTrip, state, last⟩ : DealMachine).run ks).2.filterMap (·.deal?) =
          r.2.filterMap (·.deal?) := by
  refine ⟨onTick_roundTrip state last, fun ks => ?_⟩
  have hrun := @run_roundTrip ⟨.oneLegPerTick, state, last⟩ rfl ks
  exact ⟨hrun, by rw [hrun, TickOutcome.filterMap_deal?_mergeRedelivered]⟩

/-- A tick at 95 and 115 under thresholds 100 and 110: the round trip completes the deal at
    once, and the one-leg machine, given the tick twice, buys and then completes the same deal. -/
example :
    let t : Thresholds := ⟨⟨Decimal.ofNat64 100 (by decide)⟩, ⟨Decimal.ofNat64 110 (by decide)⟩⟩
    let b : Price := ⟨Decimal.ofNat64 95 (by decide)⟩
    let s : Price := ⟨Decimal.ofNat64 115 (by decide)⟩
    let m := new .oneLegPerTick
    ((new .sameTickRoundTrip).run [⟨t, b, s⟩]).2 = [.completed ⟨b, s⟩] ∧
      (m.run (m.doubleBuys [⟨t, b, s⟩])).2 = [.bought b, .completed ⟨b, s⟩] := by
  decide

end DealMachine

end RobotTrading
