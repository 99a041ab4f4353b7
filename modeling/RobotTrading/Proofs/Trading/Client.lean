import RobotTrading.Proofs.Engine.Trading
import RobotTrading.Proofs.Store.Table
import RobotTrading.Service.Clients

/-!
# A trading client with its store and its viewers

A client runs each tick against its robot's thresholds, and a completed deal
has three effects, in order: the profit is recorded on the client's robot, the
robot is written back to the store, and it is published to the viewers. A write
that fails is swallowed: the publish still happens and the machine has moved on
all the same. Everything else a tick does stays inside the client, and a robot
without thresholds ignores the tick altogether. `Service.ClientBench.Ticked`
lists these cases; a tick always takes one of them.

Writes carry absolute values, so whatever earlier writes failed, the store holds
the client's results right after a write that succeeds. Between two fresh
records of the robot, as long as no deal overflows the yield and the deal count
stays in range, the count goes up by one per completed deal and the yield is the
sum of the profits in the order the deals completed.

The bounds are the exceptions. A deal whose profit overflows the yield is
neither recorded, written nor published, although the deal machine has
completed it; and a deal recorded at the largest count steps the count to the
smallest.

## Main definitions

- `Service.ClientBench.Ticked` — the four ways a tick goes for a client and its bench.
- `Service.ClientBench.run` — a sequence of calls on a client.

## Main statements

- `Service.ClientBench.ticked_tick` — every tick goes one of the four ways.
- `Store.saveTrade_of_counted` — a write that counts leaves the robot's results stored.
- `Service.ClientBench.results_run` — the results after a run without fresh records.
- `Service.ClientBench.client_ticks_settle` — the three together.
- `Service.ClientBench.deal_accounting_breaks_at_bounds` — a deal at the largest count or yield.
-/

namespace RobotTrading

/-- Below its largest value the counter steps by one. -/
theorem counterNext_of_ne {n : Int} (h : n ≠ int64Max) : counterNext n = n + 1 := if_neg h

/-- Stepped `k` times from `n` without passing its largest value, the counter is `n + k`. -/
theorem counterNext_iterate_of_le {n : Int} {k : Nat} (h : n + k ≤ int64Max) :
    counterNext^[k] n = n + k := by
  induction k generalizing n with
  | zero => simp
  | succ k ih =>
    push_cast at h
    rw [Function.iterate_succ_apply, counterNext_of_ne (by omega), ih (by omega)]
    omega

namespace Robot

/-- Recording a deal adds the profit to the yield and steps the deal count. -/
theorem recordDeal_eq_ok {r r' : Robot} {p : Decimal} (h : r.recordDeal p = .ok r') :
    ∃ y n y', r.factYield = some y ∧ r.dealsCount = some n ∧ y.add? p = some y' ∧
      r' = { r with factYield := some y', dealsCount := some (counterNext n) } := by
  unfold recordDeal at h
  split at h
  · rename_i y n hy hn
    split at h
    · rename_i y' hy'
      cases h
      exact ⟨y, n, y', hy, hn, hy', rfl⟩
    · cases h
  · cases h

/-- A robot with thresholds records a deal or overflows: it is never refused as untradable. -/
theorem recordDeal_of_thresholds {r : Robot} {th : Thresholds} (h : r.thresholds = some th)
    (p : Decimal) : (∃ r', r.recordDeal p = .ok r') ∨ r.recordDeal p = .error .yieldOverflow := by
  obtain ⟨y, n, hy, hn⟩ := results_of_thresholds h
  unfold recordDeal
  rw [hy, hn]
  rcases hsum : y.add? p with _ | y' <;> simp [hsum]

end Robot

namespace Store

/-- **A write that counts.** When a trade write is counted as successful, the store's record of
    the robot holds the robot's yield and deal count. -/
theorem saveTrade_of_counted {s : Store} {r : Robot}
    (h : (s.saveTrade r).1.tradeWrites = s.tradeWrites + 1) :
    ∃ x, (s.saveTrade r).1.get? r.robotId = some x ∧
      x.factYield = r.factYield ∧ x.dealsCount = r.dealsCount := by
  unfold saveTrade at h ⊢
  split at h
  · -- an injected failure counts nothing
    simp at h
  · split at h
    · rename_i s' hs'
      unfold update at hs'
      split at hs'
      · rename_i hsome
        cases hs'
        obtain ⟨x, hx⟩ := Option.isSome_iff_exists.1 hsome
        rw [if_neg (by assumption)]
        refine ⟨{ x with factYield := r.factYield, dealsCount := r.dealsCount }, ?_, rfl, rfl⟩
        simp only [get?] at hx ⊢
        have hf : ∀ x : Robot,
            ({ x with factYield := r.factYield, dealsCount := r.dealsCount } : Robot).robotId =
              x.robotId := fun _ => rfl
        rw [find?_modifyRow hf, hx]
        rfl
      · cases hs'
    · -- a robot the store does not hold counts nothing
      simp at h

end Store

namespace Service

namespace ClientBench

/-- The four ways a tick `t` goes for the bench `b`, with the bench, the outcome and the failure
    it leads to. A robot without thresholds ignores the tick. Otherwise the machine runs against
    them: an outcome that completes no deal stays inside the client; a completed deal whose profit
    the robot records is written back and then published, whatever the write returns; and one
    whose profit overflows is neither recorded, written nor published, and raises a failure. -/
inductive Ticked (b : ClientBench) (t : PriceTick) : ClientBench → TickOutcome → Option Fault → Prop
  /-- The robot has no thresholds: nothing happens. -/
  | untradable (h : b.client.robot.thresholds = none) : Ticked b t b .idle none
  /-- The machine completes no deal: only the machine moves. -/
  | quiet {th : Thresholds} {m : DealMachine} {o : TickOutcome}
      (h : b.client.robot.thresholds = some th) (hm : b.client.machine.onTick th t.buy t.sell = (m, o))
      (ho : o.deal? = none) :
      Ticked b t { b with client := { b.client with machine := m } } o none
  /-- The machine completes a deal and its profit is recorded: the robot is written back, then
      published. -/
  | recorded {th : Thresholds} {m : DealMachine} {d : CompletedDeal} {p : Decimal} {r : Robot}
      (h : b.client.robot.thresholds = some th)
      (hm : b.client.machine.onTick th t.buy t.sell = (m, .completed d))
      (hp : d.profit? = some p) (hr : b.client.robot.recordDeal p = .ok r) :
      Ticked b t ⟨⟨r, m⟩, (b.store.saveTrade r).1, b.ring.publish r⟩ (.completed d) none
  /-- The machine completes a deal whose profit overflows: only the machine moves. -/
  | overflowed {th : Thresholds} {m : DealMachine} {d : CompletedDeal} (f : Fault)
      (h : b.client.robot.thresholds = some th)
      (hm : b.client.machine.onTick th t.buy t.sell = (m, .completed d))
      (hr : ∀ p, d.profit? = some p → b.client.robot.recordDeal p = .error .yieldOverflow) :
      Ticked b t { b with client := { b.client with machine := m } } (.completed d) (some f)

variable {b : ClientBench} {t : PriceTick}

/-- A tick whose outcome completes no deal moves only the machine. -/
theorem tick_of_quiet {th : Thresholds} {m : DealMachine} {o : TickOutcome}
    (h : b.client.robot.thresholds = some th) (hm : b.client.machine.onTick th t.buy t.sell = (m, o))
    (ho : o.deal? = none) : b.tick t = ({ b with client := { b.client with machine := m } }, o, none) := by
  cases o with
  | idle => simp [tick, Client.onTick, h, hm, settleOn]
  | bought q => simp [tick, Client.onTick, h, hm, settleOn]
  | completed d => cases ho

/-- **Every tick goes one of the four ways.** The split is on the thresholds, then on whether the
    machine completes a deal, then on recording the profit; a robot with thresholds holds its
    results, so recording never refuses it. -/
theorem ticked_tick (b : ClientBench) (t : PriceTick) :
    Ticked b t (b.tick t).1 (b.tick t).2.1 (b.tick t).2.2 := by
  cases hth : b.client.robot.thresholds with
  | none =>
    have : b.tick t = (b, .idle, none) := by simp [tick, Client.onTick, hth, settleOn]
    rw [this]
    exact .untradable hth
  | some th =>
    rcases hm : b.client.machine.onTick th t.buy t.sell with ⟨m, o⟩
    cases ho : o.deal? with
    | none =>
      rw [tick_of_quiet hth hm ho]
      exact .quiet hth hm ho
    | some d =>
      -- only a completed outcome carries a deal
      obtain rfl : o = .completed d := by cases o <;> simp_all [TickOutcome.deal?]
      cases hp : d.profit? with
      | none =>
        -- the profit itself does not fit a decimal
        have : b.tick t = ({ b with client := { b.client with machine := m } }, .completed d,
            some (Overflow.fault .subtraction)) := by
          simp [tick, Client.onTick, hth, hm, Client.settle, hp, settleOn]
        rw [this]
        exact .overflowed _ hth hm (fun p h => by simp [hp] at h)
      | some p =>
        rcases Robot.recordDeal_of_thresholds hth p with ⟨r, hr⟩ | hr
        · have : b.tick t = (⟨⟨r, m⟩, (b.store.saveTrade r).1, b.ring.publish r⟩, .completed d,
              none) := by
            simp [tick, Client.onTick, hth, hm, Client.settle, hp, hr, settleOn]
          rw [this]
          exact .recorded hth hm hp hr
        · have : b.tick t = ({ b with client := { b.client with machine := m } }, .completed d,
              some (Overflow.fault .addition)) := by
            simp [tick, Client.onTick, hth, hm, Client.settle, hp, hr, settleOn]
          rw [this]
          exact .overflowed _ hth hm (fun p' h => by simp [hp] at h; subst h; exact hr)

/-- Only a recorded deal writes to the store: after any other tick the store is as it was. -/
theorem Ticked.store_eq {b' : ClientBench} {o : TickOutcome} {f : Option Fault}
    (h : Ticked b t b' o f) : b'.store = b.store ∨
      ∃ r, b'.store = (b.store.saveTrade r).1 ∧ b'.client.robot = r := by
  cases h with
  | untradable => exact .inl rfl
  | quiet => exact .inl rfl
  | recorded => exact .inr ⟨_, rfl, rfl⟩
  | overflowed => exact .inl rfl

/-- **The store agrees after a counted write.** When a tick's trade write is counted as
    successful, the store's record of the client's robot holds the client's yield and deal
    count, whatever earlier writes returned. -/
theorem stored_of_counted (h : (b.tick t).1.store.tradeWrites = b.store.tradeWrites + 1) :
    ∃ x, (b.tick t).1.store.get? (b.tick t).1.client.robotId = some x ∧
      x.factYield = (b.tick t).1.client.robot.factYield ∧
      x.dealsCount = (b.tick t).1.client.robot.dealsCount := by
  rcases (ticked_tick b t).store_eq with hs | ⟨r, hs, hr⟩
  · rw [hs] at h
    omega
  · rw [hs] at h ⊢
    unfold Client.robotId
    rw [hr]
    exact Store.saveTrade_of_counted h

/-- A run of calls on a client: the bench after them, and what each call returned. -/
def run (b : ClientBench) : List ClientCall → ClientBench × List (Option TickOutcome × Option Fault)
  | [] => (b, [])
  | c :: cs => (((b.call c).1.run cs).1, (b.call c).2 :: ((b.call c).1.run cs).2)

/-- The deals completed along a run, in order. -/
def deals (out : List (Option TickOutcome × Option Fault)) : List CompletedDeal :=
  out.filterMap fun x => x.1.bind TickOutcome.deal?

/-- A call that is not a fresh record and raises no failure changes the client's robot only by
    recording the deal it completes, if any. -/
theorem robot_call {c : ClientCall} (hc : ∀ r, c ≠ .replace r) (hf : (b.call c).2.2 = none) :
    ((b.call c).2.1.bind TickOutcome.deal? = none ∧ (b.call c).1.client.robot = b.client.robot) ∨
    ∃ d p, (b.call c).2.1.bind TickOutcome.deal? = some d ∧ d.profit? = some p ∧
      b.client.robot.recordDeal p = .ok (b.call c).1.client.robot := by
  cases c with
  | tick t =>
    simp only [call] at hf ⊢
    have h := ticked_tick b t
    generalize b.tick t = x at h hf ⊢
    obtain ⟨b', o, f⟩ := x
    cases h with
    | untradable => exact .inl ⟨rfl, rfl⟩
    | quiet _ _ ho => exact .inl ⟨by simpa using ho, rfl⟩
    | recorded _ _ hp hr => exact .inr ⟨_, _, rfl, hp, hr⟩
    | overflowed => simp at hf
  | replace r => exact absurd rfl (hc r)
  | failTrades n => exact .inl ⟨rfl, rfl⟩

/-- **The results between fresh records.** Along a run with no fresh record and no failure, the
    client's robot keeps every field but its results; its deal count steps once per completed
    deal, and its yield is the sum of the deals' profits in the order they completed. -/
theorem results_run (b : ClientBench) (calls : List ClientCall)
    (hno : ∀ r, ClientCall.replace r ∉ calls) (hok : ∀ x ∈ (b.run calls).2, x.2 = none) :
    ∃ ps, (deals (b.run calls).2).mapM CompletedDeal.profit? = some ps ∧
      (b.run calls).1.client.robot = { b.client.robot with
        factYield := b.client.robot.factYield.bind fun y => ps.foldlM (fun y p => y.add? p) y
        dealsCount := b.client.robot.dealsCount.map (counterNext^[(deals (b.run calls).2).length]) } := by
  induction calls generalizing b with
  | nil =>
    refine ⟨[], rfl, ?_⟩
    simp [run, deals]
  | cons c cs ih =>
    have hc : ∀ r, c ≠ .replace r := fun r h => hno r (h ▸ List.mem_cons_self)
    have hf : (b.call c).2.2 = none := hok _ List.mem_cons_self
    obtain ⟨ps, hps, hrest⟩ := ih (b := (b.call c).1)
      (fun r hr => hno r (List.mem_cons_of_mem _ hr)) (fun x hx => hok x (List.mem_cons_of_mem _ hx))
    rcases robot_call hc hf with ⟨hd, hr⟩ | ⟨d, p, hd, hp, hr⟩
    · -- nothing recorded: the rest of the run starts from the same robot
      refine ⟨ps, by simpa [run, deals, hd] using hps, ?_⟩
      simp only [run]
      rw [hrest, hr]
      simp [deals, hd]
    · -- a deal recorded: its profit comes first, and the count has stepped once
      obtain ⟨y, n, y', hy, hn, hy', hrec⟩ := Robot.recordDeal_eq_ok hr
      refine ⟨p :: ps, by simp only [deals] at hps; simp [run, deals, hd, hp, hps], ?_⟩
      simp only [run]
      rw [hrest, hrec]
      simp [deals, hd, hy, hn, hy']

/-- **A client's ticks with its store and its viewers.** Every tick goes one of the four ways of
    `Ticked`: ignored without thresholds; otherwise the machine's own outcome, with a completed
    deal recorded, written back and then published whatever the write returns, the machine moving
    on regardless, and an overflowing deal neither recorded, written nor published. Right after a
    write that counts, the store holds the client's results. Along a run with no fresh record and
    no failure, whose deals keep the count in range, the deal count goes up by one per completed
    deal and the yield adds up their profits in order. -/
theorem client_ticks_settle (b : ClientBench) :
    (∀ t : PriceTick, Ticked b t (b.tick t).1 (b.tick t).2.1 (b.tick t).2.2) ∧
    (∀ t : PriceTick, (b.tick t).1.store.tradeWrites = b.store.tradeWrites + 1 →
      ∃ x, (b.tick t).1.store.get? (b.tick t).1.client.robotId = some x ∧
        x.factYield = (b.tick t).1.client.robot.factYield ∧
        x.dealsCount = (b.tick t).1.client.robot.dealsCount) ∧
    (∀ calls : List ClientCall, (∀ r, ClientCall.replace r ∉ calls) →
      (∀ x ∈ (b.run calls).2, x.2 = none) →
      (∀ n, b.client.robot.dealsCount = some n → n + (deals (b.run calls).2).length ≤ int64Max) →
      ∃ ps, (deals (b.run calls).2).mapM CompletedDeal.profit? = some ps ∧
        (b.run calls).1.client.robot = { b.client.robot with
          factYield := b.client.robot.factYield.bind fun y => ps.foldlM (fun y p => y.add? p) y
          dealsCount := b.client.robot.dealsCount.map (· + (deals (b.run calls).2).length) }) := by
  refine ⟨ticked_tick b, fun _ h => stored_of_counted h, fun calls hno hok hcount => ?_⟩
  obtain ⟨ps, hps, hrobot⟩ := results_run b calls hno hok
  refine ⟨ps, hps, ?_⟩
  rw [hrobot]
  -- in range, the count stepped once per deal is the plain sum
  cases hn : b.client.robot.dealsCount with
  | none => rfl
  | some n => simp [counterNext_iterate_of_le (hcount n hn)]

/-- A robot of AAPL buying at 100 and selling at 110, with no results yet, and one viewer of the
    updates. The store's next write fails: the first deal is published but not stored; the
    second is stored, and repairs the first. -/
theorem client_ticks_settle_sample :
    let dec : Nat → Decimal := fun n => (Decimal.ofInt? n).getD Decimal.zero
    let r : Robot := { Robot.new 1 42 with
      ticker := some ⟨"AAPL"⟩, buyPrice := some (dec 100), sellPrice := some (dec 110),
      factYield := some (dec 0), dealsCount := some 0 }
    let b : ClientBench := ⟨Client.new r .oneLegPerTick, Store.ofRobots [r],
      ⟨256, 0, [], [(0, 0)], 1, false⟩⟩
    let opens : PriceTick := ⟨⟨"AAPL"⟩, ⟨dec 95⟩, ⟨dec 100⟩, .now⟩
    let closes : PriceTick := ⟨⟨"AAPL"⟩, ⟨dec 95⟩, ⟨dec 115⟩, .now⟩
    let calls : List ClientCall := [.tick opens, .failTrades 1, .tick closes, .tick opens]
    let held := (b.run calls).1
    ((held.tick closes).1.store.tradeWrites = held.store.tradeWrites + 1 →
      ∃ x, (held.tick closes).1.store.get? (held.tick closes).1.client.robotId = some x ∧
        x.factYield = (held.tick closes).1.client.robot.factYield ∧
        x.dealsCount = (held.tick closes).1.client.robot.dealsCount) ∧
    (held.tick closes).1.store.tradeWrites = held.store.tradeWrites + 1 ∧
    (∀ r, ClientCall.replace r ∉ calls) ∧ (∀ x ∈ (b.run calls).2, x.2 = none) ∧
    (∀ n, b.client.robot.dealsCount = some n → n + (deals (b.run calls).2).length ≤ int64Max) ∧
    ∃ ps, (deals (b.run calls).2).mapM CompletedDeal.profit? = some ps ∧
      (b.run calls).1.client.robot = { b.client.robot with
        factYield := b.client.robot.factYield.bind fun y => ps.foldlM (fun y p => y.add? p) y
        dealsCount := b.client.robot.dealsCount.map (· + (deals (b.run calls).2).length) } := by
  intro dec r b opens closes calls held
  have hno : ∀ r, ClientCall.replace r ∉ calls := by simp [calls]
  have hok : ∀ x ∈ (b.run calls).2, x.2 = none := by decide
  -- one deal completes, from a count of 0
  have hcount : ∀ n, b.client.robot.dealsCount = some n →
      n + (deals (b.run calls).2).length ≤ int64Max := by
    intro n hn
    obtain rfl : n = 0 := (Option.some_inj.1 hn).symm
    decide
  exact ⟨(client_ticks_settle held).2.1 closes, by decide, hno, hok, hcount,
    (client_ticks_settle b).2.2 calls hno hok hcount⟩

/-- **Deal accounting at the bounds.** A robot of AAPL buys at 100 and sells at 110, and two ticks
    open a leg at 95 and complete the deal at 115, for a profit of 20. From the largest deal count
    the deal is recorded and written back with the count stepped to the smallest value, not one
    up. From the largest yield the profit overflows it, so the deal is neither recorded on the
    robot, whose count stays 0, nor written back nor published. -/
theorem deal_accounting_breaks_at_bounds :
    let dec : Nat → Decimal := fun n => (Decimal.ofInt? n).getD Decimal.zero
    let robot : Decimal → Int → Robot := fun y n => { Robot.new 1 42 with
      ticker := some ⟨"AAPL"⟩, buyPrice := some (dec 100), sellPrice := some (dec 110),
      factYield := some y, dealsCount := some n }
    let bench : Robot → ClientBench := fun r => ⟨Client.new r .oneLegPerTick, Store.ofRobots [r],
      ⟨256, 0, [], [(0, 0)], 1, false⟩⟩
    let ticks : List ClientCall := [.tick ⟨⟨"AAPL"⟩, ⟨dec 95⟩, ⟨dec 100⟩, .now⟩,
      .tick ⟨⟨"AAPL"⟩, ⟨dec 95⟩, ⟨dec 115⟩, .now⟩]
    let wraps := (bench (robot (dec 0) int64Max)).run ticks
    let overflows := (bench (robot (dec (2 ^ 96 - 1)) 0)).run ticks
    (wraps.1.client.robot.dealsCount = some int64Min ∧ int64Min ≠ int64Max + 1 ∧
      wraps.1.client.robot.factYield = some (dec 20) ∧
      (wraps.1.store.get? 1).map (·.dealsCount) = some (some int64Min)) ∧
    (overflows.2.map (·.1) = [some (.bought ⟨dec 95⟩), some (.completed ⟨⟨dec 95⟩, ⟨dec 115⟩⟩)] ∧
      overflows.1.client.robot = robot (dec (2 ^ 96 - 1)) 0 ∧
      overflows.1.store = (bench (robot (dec (2 ^ 96 - 1)) 0)).store ∧
      overflows.1.ring = (bench (robot (dec (2 ^ 96 - 1)) 0)).ring) := by
  decide

end ClientBench

end Service

end RobotTrading
