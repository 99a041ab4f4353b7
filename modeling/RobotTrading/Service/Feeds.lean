import RobotTrading.Feed.RandomWalk
import RobotTrading.Service.Storage

/-!
# Feed requests

Subscribing to the random-walk feed, answered with its first tick.

## Main definitions

* `FeedError.fault`, `Overflow.fault`.
* `Service.tickJson` : a tick without its stamp.
* `Service.simFeed` : the random-walk subscription request.
-/

namespace RobotTrading

namespace Service

open Request

/-- The failure of a feed error. -/
def FeedError.fault (e : FeedError) : Fault :=
  match e with
  | .subscribe _ _ => ⟨"Subscribe", some e.message⟩
  | .stream _ => ⟨"Stream", some e.message⟩
  | .domain _ => ⟨"Domain", some e.message⟩

/-- The failure of an overflow. -/
def Overflow.fault (o : Overflow) : Fault := Fault.panic o.message

/-- A tick's symbol and quotes. -/
def tickJson (t : PriceTick) : Json :=
  .obj [("symbol", .str t.symbol.text), ("buy_price", Field.ofDecimal t.buy.value),
    ("sell_price", Field.ofDecimal t.sell.value)]

/-- The walk of a request: the default walk, or the given parameters. -/
def walkField (req : Json) : Reading RandomWalk := do
  let useDefault ← withDefault req "default" (asFlag "default") false
  if useDefault then pure RandomWalk.default
  else
    let start ← decimal req "start_price"
    let spread ← decimal req "spread"
    let step ← withDefault req "max_step" asDecimal RandomWalk.default.maxStep
    let interval ← withDefault req "interval_ms" (asNat "interval_ms") 500
    pure ⟨start, spread, step, interval⟩

/-- The first tick of a random-walk subscription. -/
def simFeed (req : Json) : Answer := do
  let raw ← string req "symbol"
  let s ← ofDomain (Symbol.ofText raw)
  let w ← walkField req
  match w.firstTick s with
  | .error o => throw (Overflow.fault o)
  | .ok (.error e) => throw (FeedError.fault e)
  | .ok (.ok t) => pure (.obj [("first_tick", Field.ofOption tickJson t)])

end Service

end RobotTrading
