import RobotTrading.Robot.Basic

/-!
# The deal machine

Each robot trades through a machine that alternates between buying and selling.
While buying, a buy quote at or below the buy threshold opens a leg at that
quote. While selling, a sell quote at or above the sell threshold closes the
leg, completing a deal, and the machine buys again from the next tick on.

The policy says how much one tick may do. Under `oneLegPerTick` a tick runs at
most one leg. Under `sameTickRoundTrip` the tick that opens a leg is also
checked for the sell, so one tick can complete a whole deal. A tick that
completes a deal never opens the next leg, under either policy.

Quotes are compared by value, whatever their scale. Thresholds are passed on
every tick, so a robot's configuration can change under an open leg.

## Main definitions

* `DealPolicy`, `DealState`, `CompletedDeal`, `TickOutcome`.
* `DealMachine.onTick` : one tick.
* `DealMachine.run` : a sequence of ticks.
-/

namespace RobotTrading

/-- How many legs a single tick may execute. -/
inductive DealPolicy where
  /-- At most one leg per tick: a buy on one tick sells at the earliest on the next. -/
  | oneLegPerTick
  /-- The tick that opens a leg is also checked for the sell. -/
  | sameTickRoundTrip
deriving DecidableEq, Inhabited

/-- The decision state of a robot. -/
inductive DealState where
  /-- Waiting for the buy quote to reach the buy threshold. -/
  | buying
  /-- Holding a leg bought at `boughtAt`, waiting for the sell threshold. -/
  | selling (boughtAt : Price)
deriving DecidableEq

/-- One full round trip. -/
structure CompletedDeal where
  /-- The buy price. -/
  boughtAt : Price
  /-- The sell price. -/
  soldAt : Price
deriving DecidableEq

/-- What one tick did. -/
inductive TickOutcome where
  /-- Nothing was executed. -/
  | idle
  /-- A leg was opened at the given price. -/
  | bought (p : Price)
  /-- A leg was closed, completing the deal. -/
  | completed (d : CompletedDeal)
deriving DecidableEq

namespace Price

/-- `a` is strictly above `b` in value. -/
def above (a b : Price) : Bool := a.value.cmp b.value == .gt

/-- `a` is at least `b` in value. -/
def atLeast (a b : Price) : Bool := a.value.cmp b.value != .lt

end Price

namespace CompletedDeal

/-- The realised profit, sell price minus buy price, when it is a decimal. -/
def profit? (d : CompletedDeal) : Option Decimal := d.soldAt.value.sub? d.boughtAt.value

end CompletedDeal

/-- The buy and sell decision machine of one robot. -/
structure DealMachine where
  /-- The policy, fixed at creation. -/
  policy : DealPolicy
  /-- The decision state. -/
  state : DealState
  /-- The most recent completed deal. -/
  lastDeal : Option CompletedDeal
deriving DecidableEq

namespace DealMachine

/-- A machine that starts buying. -/
def new (policy : DealPolicy) : DealMachine := ⟨policy, .buying, none⟩

/-- The sell check of a machine holding a leg bought at `boughtAt`; `opened` is the
    outcome when the sell does not trigger. -/
def trySell (m : DealMachine) (t : Thresholds) (boughtAt sell : Price) (opened : TickOutcome) :
    DealMachine × TickOutcome :=
  if sell.atLeast t.sell then
    let d : CompletedDeal := ⟨boughtAt, sell⟩
    ({ m with state := .buying, lastDeal := some d }, .completed d)
  else ({ m with state := .selling boughtAt }, opened)

/-- One tick against the thresholds, with the buy and the sell quote. -/
def onTick (m : DealMachine) (t : Thresholds) (buy sell : Price) : DealMachine × TickOutcome :=
  match m.state with
  | .buying =>
    if buy.above t.buy then (m, .idle)
    else
      match m.policy with
      | .oneLegPerTick => ({ m with state := .selling buy }, .bought buy)
      | .sameTickRoundTrip => m.trySell t buy sell (.bought buy)
  | .selling boughtAt => m.trySell t boughtAt sell .idle

/-- A tick: the thresholds in force and the two quotes. -/
structure Tick where
  /-- Thresholds in force at this tick. -/
  thresholds : Thresholds
  /-- The buy quote. -/
  buy : Price
  /-- The sell quote. -/
  sell : Price

/-- A run over a sequence of ticks: the final machine and the outcomes in order. -/
def run (m : DealMachine) : List Tick → DealMachine × List TickOutcome
  | [] => (m, [])
  | k :: ks =>
    let (m', o) := m.onTick k.thresholds k.buy k.sell
    let (m'', os) := m'.run ks
    (m'', o :: os)

end DealMachine

end RobotTrading
