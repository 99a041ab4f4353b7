import RobotTrading.Market.Basic
import RobotTrading.Time.Instant

/-!
# Prices and ticks

A `Price` wraps a decimal quote. `Price.ofDecimal` admits only strictly
positive values; a price read back from a stored record is taken as written.

A `PriceTick` carries the buy and sell quotes of one symbol at one moment.
`PriceTick.ofQuotes` checks the buy quote before the sell quote.

Moments are `Stamp`s: either a given instant or the clock reading taken while
the request ran, which answers show as a placeholder.

## Main definitions

* `Price.ofDecimal`, `PriceTick.ofQuotes`.
* `Stamp` : a given instant or the clock's reading.
-/

namespace RobotTrading

/-- A quote. Prices built by `Price.ofDecimal` are positive. -/
structure Price where
  /-- The quoted decimal. -/
  value : Decimal
deriving DecidableEq

namespace Price

/-- A price from a decimal, refused unless strictly positive. -/
def ofDecimal (d : Decimal) : Except DomainError Price :=
  if d.isPos then .ok ⟨d⟩ else .error (.nonPositivePrice d)

end Price

/-- A moment: a given instant, or the clock's reading while the request ran. -/
inductive Stamp where
  | at (t : Instant)
  | now
deriving DecidableEq

/-- The two quotes of one symbol at one moment. -/
structure PriceTick where
  /-- The symbol quoted. -/
  symbol : Symbol
  /-- Price at which a robot buys. -/
  buy : Price
  /-- Price at which a robot sells. -/
  sell : Price
  /-- When the quotes were taken. -/
  stamp : Stamp
deriving DecidableEq

namespace PriceTick

/-- A tick from two decimal quotes, the buy quote checked first, stamped now. -/
def ofQuotes (symbol : Symbol) (buy sell : Decimal) : Except DomainError PriceTick := do
  let b ← Price.ofDecimal buy
  let s ← Price.ofDecimal sell
  pure ⟨symbol, b, s, .now⟩

end PriceTick

end RobotTrading
