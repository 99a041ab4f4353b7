import RobotTrading.Deal.Machine
import RobotTrading.Proofs.Decimal.Value

/-!
# Runs of the deal machine

A machine created buying and run over any sequence of ticks keeps three laws
over the whole run, whatever thresholds each tick carries:

* its state is the one left by the last outcome that executed something — a
  buy holds its leg, a completed deal buys again — and its last deal is the
  deal of the last completed outcome;
* its outcomes follow the leg discipline `DealMachine.Legs`: legs open and
  close in turn, a leg that closes was opened by the buy just before it (or,
  under `sameTickRoundTrip` only, by the closing tick itself);
* every deal was bought at or below the buy threshold of the tick that opened
  it and sold at or above the sell threshold of the tick that closed it.

## Main definitions

- `DealMachine.lastActive`, `DealMachine.lastCompleted` — the last executed
  outcome and the last completed deal of a history.
- `DealMachine.Legs` — the leg discipline of a history of ticks and outcomes.

## Main statements

- `DealMachine.onTick_cases` — the five ways one tick can go.
- `DealMachine.run_legs` — every run follows the leg discipline.
- `DealMachine.run_new_keeps_leg_laws` — the laws of a run from a new machine.

## Design notes

Prices are compared by value (`Decimal.val`), so the laws read as inequalities
of rationals. The leg discipline is stated from a point where a given leg is
open, so that it can be read off one tick at a time; a run from a new machine
starts with no leg open.
-/

namespace RobotTrading

namespace Price

theorem above_iff (a b : Price) : a.above b = true ↔ b.value.val < a.value.val := by
  simp [above, Decimal.cmp_eq_compare_val, compare_gt_iff_gt]

theorem atLeast_iff (a b : Price) : a.atLeast b = true ↔ b.value.val ≤ a.value.val := by
  simp [atLeast, Decimal.cmp_eq_compare_val, compare_lt_iff_lt]

end Price

namespace TickOutcome

/-- The tick executed a leg. -/
def isActive : TickOutcome → Bool
  | .idle => false
  | _ => true

/-- The deal of a completed outcome. -/
def deal? : TickOutcome → Option CompletedDeal
  | .completed d => some d
  | _ => none

end TickOutcome

namespace DealMachine

/-- The last outcome of a history that executed a leg. -/
def lastActive (os : List TickOutcome) : Option TickOutcome := os.reverse.find? (·.isActive)

/-- The deal of the last completed outcome of a history. -/
def lastCompleted (os : List TickOutcome) : Option CompletedDeal :=
  os.reverse.findSome? (·.deal?)

/-- The state left by a history that started in state `s`: the leg of the last buy when the
    last executed outcome is a buy, buying after a completed deal, and `s` when nothing was
    executed. -/
def stateAfter (s : DealState) (os : List TickOutcome) : DealState :=
  match lastActive os with
  | some (.bought p) => .selling p
  | some _ => .buying
  | none => s

namespace Tick

/-- The buy quote is at or below the buy threshold in force. -/
def buys (k : Tick) : Prop := k.buy.value.val ≤ k.thresholds.buy.value.val

/-- The sell quote is at or above the sell threshold in force. -/
def sells (k : Tick) : Prop := k.thresholds.sell.value.val ≤ k.sell.value.val

theorem buys_iff (k : Tick) : k.buys ↔ k.buy.above k.thresholds.buy = false := by
  rw [buys, ← Bool.not_eq_true, Price.above_iff, not_lt]

theorem sells_iff (k : Tick) : k.sells ↔ k.sell.atLeast k.thresholds.sell = true := by
  rw [sells, Price.atLeast_iff]

end Tick

/-- **The leg discipline** of a history of ticks paired with their outcomes, read from a point
    where the leg opened at tick `opening` is open (`none`: no leg is open).

    With no leg open, a tick whose buy quote misses its threshold is idle, and one that meets it
    buys at its buy quote; under `sameTickRoundTrip` the same tick also sells when its sell quote
    meets its threshold, completing the deal at once. With a leg open, a tick is idle until its
    sell quote meets the threshold in force, and then the deal completes at the buy quote of the
    opening tick and the sell quote of the closing one. A buy never comes while a leg is open. -/
def Legs (policy : DealPolicy) : Option Tick → List (Tick × TickOutcome) → Prop
  | _, [] => True
  | none, (k, .idle) :: rest => ¬ k.buys ∧ Legs policy none rest
  | some k₀, (k, .idle) :: rest => ¬ k.sells ∧ Legs policy (some k₀) rest
  | none, (k, .bought p) :: rest =>
    p = k.buy ∧ k.buys ∧ (policy = .oneLegPerTick ∨ ¬ k.sells) ∧ Legs policy (some k) rest
  | some _, (_, .bought _) :: _ => False
  | some k₀, (k, .completed d) :: rest =>
    d = ⟨k₀.buy, k.sell⟩ ∧ k₀.buys ∧ k.sells ∧ Legs policy none rest
  | none, (k, .completed d) :: rest =>
    policy = .sameTickRoundTrip ∧ d = ⟨k.buy, k.sell⟩ ∧ k.buys ∧ k.sells ∧ Legs policy none rest

/-- The machine holds the leg opened at `opening`: it sells at that tick's buy quote, which met
    that tick's threshold; with no leg open it buys. -/
def Holds (m : DealMachine) : Option Tick → Prop
  | none => m.state = .buying
  | some k₀ => m.state = .selling k₀.buy ∧ k₀.buys

/-- **One tick**, in the five ways it can go: buying, the buy quote is too high; buying, the leg
    opens and stays open; buying under `sameTickRoundTrip`, the leg opens and closes; selling, the
    leg closes; selling, the sell quote is too low. -/
theorem onTick_cases (m : DealMachine) (t : Thresholds) (buy sell : Price) :
    (m.state = .buying ∧ buy.above t.buy ∧ m.onTick t buy sell = (m, .idle)) ∨
    (m.state = .buying ∧ buy.above t.buy = false ∧
      (m.policy = .oneLegPerTick ∨ sell.atLeast t.sell = false) ∧
      m.onTick t buy sell = ({ m with state := .selling buy }, .bought buy)) ∨
    (m.state = .buying ∧ buy.above t.buy = false ∧ m.policy = .sameTickRoundTrip ∧
      sell.atLeast t.sell ∧
      m.onTick t buy sell = ({ m with state := .buying, lastDeal := some ⟨buy, sell⟩ },
        .completed ⟨buy, sell⟩)) ∨
    (∃ p, m.state = .selling p ∧ sell.atLeast t.sell ∧
      m.onTick t buy sell = ({ m with state := .buying, lastDeal := some ⟨p, sell⟩ },
        .completed ⟨p, sell⟩)) ∨
    (∃ p, m.state = .selling p ∧ sell.atLeast t.sell = false ∧
      m.onTick t buy sell = (m, .idle)) := by
  rcases m with ⟨policy, state, last⟩
  cases state with
  | buying =>
    cases ha : buy.above t.buy
    · cases policy
      · simp [onTick, ha]
      · cases hs : sell.atLeast t.sell <;> simp [onTick, trySell, ha, hs]
    · simp [onTick, ha]
  | selling p =>
    cases hs : sell.atLeast t.sell <;> simp [onTick, trySell, hs]

theorem onTick_policy (m : DealMachine) (t : Thresholds) (buy sell : Price) :
    (m.onTick t buy sell).1.policy = m.policy := by
  rcases onTick_cases m t buy sell with
    ⟨-, -, h⟩ | ⟨-, -, -, h⟩ | ⟨-, -, -, -, h⟩ | ⟨p, -, -, h⟩ | ⟨p, -, -, h⟩ <;> simp [h]

theorem onTick_state (m : DealMachine) (t : Thresholds) (buy sell : Price) :
    (m.onTick t buy sell).1.state = stateAfter m.state [(m.onTick t buy sell).2] := by
  rcases onTick_cases m t buy sell with
    ⟨-, -, h⟩ | ⟨-, -, -, h⟩ | ⟨-, -, -, -, h⟩ | ⟨p, -, -, h⟩ | ⟨p, -, -, h⟩ <;>
    simp [h, stateAfter, lastActive, TickOutcome.isActive]

theorem onTick_lastDeal (m : DealMachine) (t : Thresholds) (buy sell : Price) :
    (m.onTick t buy sell).1.lastDeal = (m.onTick t buy sell).2.deal?.or m.lastDeal := by
  rcases onTick_cases m t buy sell with
    ⟨-, -, h⟩ | ⟨-, -, -, h⟩ | ⟨-, -, -, -, h⟩ | ⟨p, -, -, h⟩ | ⟨p, -, -, h⟩ <;>
    simp [h, TickOutcome.deal?]

theorem run_cons (m : DealMachine) (k : Tick) (ks : List Tick) :
    m.run (k :: ks) =
      (((m.onTick k.thresholds k.buy k.sell).1.run ks).1,
        (m.onTick k.thresholds k.buy k.sell).2 ::
          ((m.onTick k.thresholds k.buy k.sell).1.run ks).2) :=
  rfl

theorem run_length (m : DealMachine) (ks : List Tick) : (m.run ks).2.length = ks.length := by
  induction ks generalizing m with
  | nil => rfl
  | cons k ks ih => simp [run_cons, ih]

/-- The outcomes of the first `n` ticks are the first `n` outcomes of the run. -/
theorem run_take (m : DealMachine) (ks : List Tick) (n : Nat) :
    (m.run (ks.take n)).2 = (m.run ks).2.take n := by
  induction ks generalizing m n with
  | nil => simp [run]
  | cons k ks ih =>
    cases n with
    | zero => rfl
    | succ n => simp [run_cons, ih]

/-- A run over two sequences of ticks is the run over the first, continued over the second. -/
theorem run_append (m : DealMachine) (ks ks' : List Tick) :
    m.run (ks ++ ks') = (((m.run ks).1.run ks').1, (m.run ks).2 ++ ((m.run ks).1.run ks').2) := by
  induction ks generalizing m with
  | nil => rfl
  | cons k ks ih => simp [run_cons, ih]

theorem lastActive_cons (o : TickOutcome) (os : List TickOutcome) :
    lastActive (o :: os) = (lastActive os).or (if o.isActive then some o else none) := by
  simp [lastActive, List.find?_append, List.find?_singleton]

theorem lastCompleted_cons (o : TickOutcome) (os : List TickOutcome) :
    lastCompleted (o :: os) = (lastCompleted os).or o.deal? := by
  simp [lastCompleted, List.findSome?_append]

theorem stateAfter_cons (s : DealState) (o : TickOutcome) (os : List TickOutcome) :
    stateAfter s (o :: os) = stateAfter (stateAfter s [o]) os := by
  unfold stateAfter
  rw [lastActive_cons]
  rcases lastActive os with _ | x
  · cases o <;> simp [lastActive, TickOutcome.isActive]
  · cases x <;> rfl

theorem run_policy (m : DealMachine) (ks : List Tick) : (m.run ks).1.policy = m.policy := by
  induction ks generalizing m with
  | nil => rfl
  | cons k ks ih => simp [run_cons, ih, onTick_policy]

theorem run_state (m : DealMachine) (ks : List Tick) :
    (m.run ks).1.state = stateAfter m.state (m.run ks).2 := by
  induction ks generalizing m with
  | nil => simp [run, stateAfter, lastActive]
  | cons k ks ih =>
    simp only [run_cons]
    rw [stateAfter_cons, ih, onTick_state]

theorem run_lastDeal (m : DealMachine) (ks : List Tick) :
    (m.run ks).1.lastDeal = (lastCompleted (m.run ks).2).or m.lastDeal := by
  induction ks generalizing m with
  | nil => simp [run, lastCompleted]
  | cons k ks ih => simp [run_cons, ih, onTick_lastDeal, lastCompleted_cons, Option.or_assoc]

/-- **Every run follows the leg discipline**, from the leg the machine holds. The induction is
    on the ticks; each tick is one of the five cases of `onTick_cases`, and a machine that holds
    no leg cannot be selling, nor one that holds a leg buying. -/
theorem run_legs (m : DealMachine) (ks : List Tick) (o : Option Tick) (h : Holds m o) :
    Legs m.policy o (ks.zip (m.run ks).2) := by
  induction ks generalizing m o with
  | nil => simp [run, Legs]
  | cons k ks ih =>
    rw [run_cons, List.zip_cons_cons]
    rcases onTick_cases m k.thresholds k.buy k.sell with
      ⟨hs, ha, he⟩ | ⟨hs, ha, hp, he⟩ | ⟨hs, ha, hp, hsl, he⟩ | ⟨p, hs, hsl, he⟩ |
        ⟨p, hs, hsl, he⟩
    · -- the buy quote is above the threshold: nothing happens
      cases o with
      | some k₀ => simp [Holds, hs] at h
      | none =>
        rw [he]
        exact ⟨by simp [Tick.buys_iff, ha], ih m none h⟩
    · -- a leg opens at the buy quote
      cases o with
      | some k₀ => simp [Holds, hs] at h
      | none =>
        rw [he]
        refine ⟨rfl, (Tick.buys_iff k).2 ha, ?_,
          ih { m with state := .selling k.buy } (some k) ⟨rfl, (Tick.buys_iff k).2 ha⟩⟩
        simpa [Tick.sells_iff] using hp
    · -- the tick opens and closes a leg
      cases o with
      | some k₀ => simp [Holds, hs] at h
      | none =>
        rw [he]
        exact ⟨hp, rfl, (Tick.buys_iff k).2 ha, (Tick.sells_iff k).2 hsl,
          ih { m with state := .buying, lastDeal := some ⟨k.buy, k.sell⟩ } none rfl⟩
    · -- the open leg closes at the sell quote
      cases o with
      | none => simp [Holds, hs] at h
      | some k₀ =>
        obtain ⟨hk, hb⟩ := h
        rw [hs] at hk
        cases hk
        rw [he]
        exact ⟨rfl, hb, (Tick.sells_iff k).2 hsl,
          ih { m with state := .buying, lastDeal := some ⟨k₀.buy, k.sell⟩ } none rfl⟩
    · -- the sell quote is below the threshold: the leg stays open
      cases o with
      | none => simp [Holds, hs] at h
      | some k₀ =>
        rw [he]
        exact ⟨by simp [Tick.sells_iff, hsl], ih m (some k₀) h⟩

/-- Under thresholds that never change, every deal of a history that follows the leg discipline
    was bought at or below the buy threshold and sold at or above the sell threshold. -/
theorem Legs.deal_bounds {policy : DealPolicy} (t : Thresholds) :
    ∀ {o : Option Tick} {h : List (Tick × TickOutcome)}, Legs policy o h →
      (∀ x ∈ h, x.1.thresholds = t) → (∀ k₀ ∈ o, k₀.thresholds = t) →
      ∀ d ∈ (h.map (·.2)).filterMap (·.deal?),
        d.boughtAt.value.val ≤ t.buy.value.val ∧ t.sell.value.val ≤ d.soldAt.value.val := by
  intro o h
  induction h generalizing o with
  | nil => simp
  | cons x h ih =>
    obtain ⟨k, out⟩ := x
    intro hl ht ho d hd
    have hk : k.thresholds = t := ht (k, out) (List.mem_cons_self ..)
    have ht' : ∀ x ∈ h, x.1.thresholds = t := fun x hx => ht x (List.mem_cons_of_mem _ hx)
    cases out with
    | idle =>
      cases o with
      | none => exact ih hl.2 ht' ho d (by simpa [TickOutcome.deal?] using hd)
      | some k₀ => exact ih hl.2 ht' ho d (by simpa [TickOutcome.deal?] using hd)
    | bought p =>
      cases o with
      | none =>
        obtain ⟨-, -, -, hl⟩ := hl
        exact ih hl ht' (by simpa using hk) d (by simpa [TickOutcome.deal?] using hd)
      | some k₀ => exact hl.elim
    | completed d' =>
      simp only [List.map_cons, List.filterMap_cons, TickOutcome.deal?, List.mem_cons] at hd
      cases o with
      | none =>
        obtain ⟨-, rfl, hb, hs, hl⟩ := hl
        rcases hd with rfl | hd
        · exact ⟨by simpa [Tick.buys, hk] using hb, by simpa [Tick.sells, hk] using hs⟩
        · exact ih hl ht' (by simp) d hd
      | some k₀ =>
        obtain ⟨rfl, hb, hs, hl⟩ := hl
        have hk₀ : k₀.thresholds = t := ho k₀ rfl
        rcases hd with rfl | hd
        · exact ⟨by simpa [Tick.buys, hk₀] using hb, by simpa [Tick.sells, hk] using hs⟩
        · exact ih hl ht' (by simp) d hd

/-- **The laws of a run from a new machine.** For either policy and every sequence of ticks:
    there is one outcome per tick and the policy never changes; after each prefix of the run the
    machine sells at `p` exactly when the last executed outcome so far bought at `p`, and buys
    otherwise, and its last deal is the deal of the last completed outcome so far; the outcomes
    follow the leg discipline from no open leg; and when every tick carries the same thresholds,
    every deal was bought at or below the buy threshold and sold at or above the sell
    threshold. -/
theorem run_new_keeps_leg_laws (policy : DealPolicy) (ks : List Tick) :
    ((new policy).run ks).2.length = ks.length ∧
    ((new policy).run ks).1.policy = policy ∧
    (∀ n, ((new policy).run (ks.take n)).1.state =
        (match lastActive (((new policy).run ks).2.take n) with
          | some (.bought p) => .selling p
          | _ => .buying) ∧
      ((new policy).run (ks.take n)).1.lastDeal = lastCompleted (((new policy).run ks).2.take n)) ∧
    Legs policy none (ks.zip ((new policy).run ks).2) ∧
    ∀ t : Thresholds, (∀ k ∈ ks, k.thresholds = t) →
      ∀ d ∈ ((new policy).run ks).2.filterMap (·.deal?),
        d.boughtAt.value.val ≤ t.buy.value.val ∧ t.sell.value.val ≤ d.soldAt.value.val := by
  have hlegs : Legs policy none (ks.zip ((new policy).run ks).2) :=
    run_legs (new policy) ks none rfl
  refine ⟨run_length _ _, run_policy _ _, fun n => ⟨?_, ?_⟩, hlegs, fun t ht => ?_⟩
  · rw [run_state, run_take]
    unfold stateAfter
    rcases lastActive (((new policy).run ks).2.take n) with _ | (_ | p | d) <;> rfl
  · rw [run_lastDeal, run_take]
    simp [new]
  · have hmap : (ks.zip ((new policy).run ks).2).map (·.2) = ((new policy).run ks).2 := by
      rw [List.map_snd_zip]
      simp [run_length]
    rw [← hmap]
    exact Legs.deal_bounds t hlegs (fun x hx => ht x.1 (List.of_mem_zip hx).1) (by simp)

/-- Two ticks under the thresholds 100 and 110, both of them fixed: a same-tick round trip and
    a buy left open; the one deal keeps within the thresholds. -/
theorem run_new_keeps_leg_laws_fixed :
    let t : Thresholds := ⟨⟨Decimal.ofNat64 100 (by decide)⟩, ⟨Decimal.ofNat64 110 (by decide)⟩⟩
    let ks : List Tick :=
      [⟨t, ⟨Decimal.ofNat64 95 (by decide)⟩, ⟨Decimal.ofNat64 115 (by decide)⟩⟩,
        ⟨t, ⟨Decimal.ofNat64 99 (by decide)⟩, ⟨Decimal.ofNat64 105 (by decide)⟩⟩]
    (∀ k ∈ ks, k.thresholds = t) ∧
      ∀ d ∈ ((new .sameTickRoundTrip).run ks).2.filterMap (·.deal?),
        d.boughtAt.value.val ≤ t.buy.value.val ∧ t.sell.value.val ≤ d.soldAt.value.val :=
  ⟨by decide, (run_new_keeps_leg_laws _ _).2.2.2.2 _ (by decide)⟩

end DealMachine

end RobotTrading
