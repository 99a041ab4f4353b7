import RobotTrading.Decimal.Arith
import RobotTrading.Market.Price

/-!
# Feed errors and the random-walk feed

A price feed fails in one of three ways: a subscription that cannot be opened,
a stream that breaks while being read, and a quote that is not a valid tick.

The random walk is a development feed that walks a mid price at random and quotes
`buy = mid + spread / 2` and `sell = mid - spread / 2` once per period. Only its
deterministic part is modelled here: the check at subscription, which refuses a
spread that leaves no valid pair of prices at the start price, and the first
tick, which quotes the start price itself.

The sums are exact decimal sums; one that leaves the decimal range is an
overflow. The buy sum is formed and checked before the sell difference.

## Main definitions

* `FeedError` and `FeedError.message`.
* `RandomWalk`, `RandomWalk.default`.
* `RandomWalk.quotes` : the two quotes at a mid price, if both are prices.
* `RandomWalk.firstTick` : the answer of a subscription.
-/

namespace RobotTrading

/-- Why a price feed failed. -/
inductive FeedError where
  /-- The subscription to the symbol could not be opened. -/
  | subscribe (symbol reason : String)
  /-- Reading from an open stream failed. -/
  | stream (reason : String)
  /-- A quote could not be turned into a valid tick. -/
  | domain (e : DomainError)
deriving DecidableEq

namespace FeedError

/-- The text of a feed error. -/
def message : FeedError → String
  | subscribe s r => "Subscribe failed for " ++ s ++ ": " ++ r
  | stream r => "Stream error: " ++ r
  | domain e => "Domain error: " ++ e.message

end FeedError

/-- Parameters of the random walk. -/
structure RandomWalk where
  /-- Mid price of the first tick. -/
  startPrice : Decimal
  /-- Distance between the buy and the sell quote. -/
  spread : Decimal
  /-- Largest move of the mid price per tick. -/
  maxStep : Decimal
  /-- Tick period in milliseconds. -/
  intervalMs : Nat

namespace RandomWalk

/-- The default walk: mid 100, spread 0.5, step 1, a tick every 500 ms. -/
def default : RandomWalk :=
  ⟨⟨false, 100, 0, by decide, Nat.zero_le _⟩, Decimal.oneHalf, ⟨false, 1, 0, by decide, Nat.zero_le _⟩, 500⟩

/-- The quotes at a mid price: `none` when either is not a positive price. -/
def quotes (w : RandomWalk) (mid : Decimal) : Except Overflow (Option (Price × Price)) := do
  let half := w.spread.half
  let buy ← mid.add half
  match Price.ofDecimal buy with
  | .error _ => pure none
  | .ok b =>
    let sell ← mid.sub half
    match Price.ofDecimal sell with
    | .error _ => pure none
    | .ok s => pure (some (b, s))

/-- Subscribing to the walk for a symbol: refused when the start price has no valid quotes,
    and otherwise the first tick, quoting the start price. A zero period delivers no tick. -/
def firstTick (w : RandomWalk) (s : Symbol) : Except Overflow (Except FeedError (Option PriceTick)) := do
  match ← w.quotes w.startPrice with
  | none => pure (.error (.subscribe s.text
      ("spread " ++ w.spread.render ++ " too wide for start price " ++ w.startPrice.render)))
  | some (b, l) =>
    if w.intervalMs = 0 then pure (.ok none) else pure (.ok (some ⟨s, b, l, .now⟩))

end RandomWalk

end RobotTrading
