import RobotTrading.Decimal.Arith
import RobotTrading.Decimal.Text
import RobotTrading.Market.Price

/-!
# Robots

A robot is a user-owned trading unit tied to one ticker. Its record holds
lifecycle flags, a trading configuration (ticker, buy and sell thresholds, a
plan window), the running results (yield and number of completed deals) and
audit stamps. Unset columns are `none`.

A robot is *eligible* at an instant when it is active, not deleted, and the
instant lies in its plan window, both ends included. It is *tradable* when both
result counters are set and both thresholds are positive prices.

## Main definitions

* `Robot` : the record.
* `Robot.thresholds`, `Robot.isTradable`, `Robot.hasInvalidThresholds`.
* `Robot.eligibleAt` : the plan-window test.
* `Robot.recordDeal` : add one completed deal's profit to the results.
* `Robot.new`, `Robot.withTicker`, `Robot.withThresholds`, `Robot.withPlan`,
  `Robot.activated` : the builders of a fresh robot.

## Design notes

Identifiers and the deal counter are signed 64-bit values. The counter steps by
one and wraps from the largest value to the smallest, as machine words do.
-/

namespace RobotTrading

/-- A robot record. -/
structure Robot where
  /-- Identifier of the robot. -/
  robotId : Int
  /-- Identifier of the owning user. -/
  ownerUserId : Int
  /-- The robot this one was cloned from. -/
  parentRobotId : Option Int
  /-- Marked as favourite by the owner. -/
  isFavourite : Bool
  /-- Switched on by the owner. -/
  isActive : Bool
  /-- Ticker to trade. -/
  ticker : Option Symbol
  /-- Buy when the buy quote drops to this price. -/
  buyPrice : Option Decimal
  /-- Sell when the sell quote rises to this price. -/
  sellPrice : Option Decimal
  /-- Start of the plan window. -/
  planStart : Option Instant
  /-- End of the plan window. -/
  planEnd : Option Instant
  /-- Target yield of the plan window, for information only. -/
  planYield : Option Decimal
  /-- Accumulated profit of completed deals. -/
  factYield : Option Decimal
  /-- Number of completed buy and sell cycles. -/
  dealsCount : Option Int
  /-- When the robot was last activated. -/
  activatedAt : Option Stamp
  /-- When the robot was last deactivated. -/
  deactivatedAt : Option Stamp
  /-- When the robot was created. -/
  createdAt : Option Stamp
  /-- Soft-delete marker. -/
  deletedAt : Option Stamp
deriving DecidableEq

/-- Buy and sell trigger prices of a tradable robot. -/
structure Thresholds where
  /-- Buy when the buy quote is at or below this price. -/
  buy : Price
  /-- Sell when the sell quote is at or above this price. -/
  sell : Price
deriving DecidableEq

/-- Why a deal could not be recorded. -/
inductive RecordError where
  /-- The yield or the deal counter is unset. -/
  | notTradable (e : DomainError)
  /-- The new yield does not fit a decimal. -/
  | yieldOverflow
deriving DecidableEq

namespace Robot

/-- The trading thresholds, when both counters are set and both thresholds are positive. -/
def thresholds (r : Robot) : Option Thresholds := do
  let _ ← r.factYield
  let _ ← r.dealsCount
  let buy ← r.buyPrice
  let buy ← (Price.ofDecimal buy).toOption
  let sell ← r.sellPrice
  let sell ← (Price.ofDecimal sell).toOption
  pure ⟨buy, sell⟩

/-- The robot is configured for trading. -/
def isTradable (r : Robot) : Bool := r.thresholds.isSome

/-- A threshold is set but is not a positive price. -/
def hasInvalidThresholds (r : Robot) : Bool :=
  [r.buyPrice, r.sellPrice].any fun p? => match p? with
    | some p => !p.isPos
    | none => false

/-- The robot trades at `now`: active, not deleted, and `now` within the plan window. -/
def eligibleAt (r : Robot) (now : Instant) : Bool :=
  r.isActive && r.deletedAt.isNone &&
    match r.planStart, r.planEnd with
    | some start, some stop => start.le now && now.le stop
    | _, _ => false

/-- Record one completed deal: the profit is added to the yield and the counter steps. -/
def recordDeal (r : Robot) (profit : Decimal) : Except RecordError Robot :=
  match r.factYield, r.dealsCount with
  | some y, some n =>
    match y.add? profit with
    | some y' => .ok { r with factYield := some y', dealsCount := some (counterNext n) }
    | none => .error .yieldOverflow
  | _, _ => .error (.notTradable (.notTradable r.robotId))

/-- A freshly registered, inactive robot without configuration, created now. -/
def new (robotId ownerUserId : Int) : Robot where
  robotId := robotId
  ownerUserId := ownerUserId
  parentRobotId := none
  isFavourite := false
  isActive := false
  ticker := none
  buyPrice := none
  sellPrice := none
  planStart := none
  planEnd := none
  planYield := none
  factYield := none
  dealsCount := none
  activatedAt := none
  deactivatedAt := none
  createdAt := some .now
  deletedAt := none

/-- Set the ticker. -/
def withTicker (r : Robot) (s : Symbol) : Robot := { r with ticker := some s }

/-- Set both thresholds; each result counter that is unset starts at zero. -/
def withThresholds (r : Robot) (buy sell : Decimal) : Robot :=
  { r with
    buyPrice := some buy
    sellPrice := some sell
    factYield := some (r.factYield.getD Decimal.zero)
    dealsCount := some (r.dealsCount.getD 0) }

/-- Set the plan window. -/
def withPlan (r : Robot) (start stop : Instant) : Robot :=
  { r with planStart := some start, planEnd := some stop }

/-- Switch the robot on as of `at`. -/
def activated (r : Robot) (t : Stamp) : Robot :=
  { r with isActive := true, activatedAt := some t, deactivatedAt := none }

end Robot

namespace RecordError

/-- The text of a failed deal record. -/
def message : RecordError → String
  | notTradable e => e.message
  | yieldOverflow => "Addition overflowed"

end RecordError

end RobotTrading
