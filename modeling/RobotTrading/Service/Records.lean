import RobotTrading.Service.Request

/-!
# Requests on single records

Answers to the requests that work on one value at a time: normalizing a ticker,
checking a price, inspecting a robot, recording deals, building a tick and
reading one back, and building a robot step by step.

## Main definitions

* `Service.symbol`, `Service.price`, `Service.robot`, `Service.recordDeals`,
  `Service.tick`, `Service.tickDocument`, `Service.robotBuild`.
-/

namespace RobotTrading

namespace Service

open Request

/-- An answer: the object, or the failure that replaces it. -/
abbrev Answer := Except Fault Json

/-- Lift a domain result into an answer. -/
def ofDomain {α : Type} : Except DomainError α → Reading α
  | .ok a => .ok a
  | .error e => .error e.fault

/-- The answer of a step: its object, or its failure's object. -/
def stepJson : Answer → Json
  | .ok j => j
  | .error f => f.toJson

/-- A normalized ticker. -/
def symbol (req : Json) : Answer := do
  let raw ← string req "ticker"
  let s ← ofDomain (Symbol.ofText raw)
  pure (.obj [("symbol", .str s.text)])

/-- A checked price and its text. -/
def price (req : Json) : Answer := do
  let v ← decimal req "value"
  let p ← ofDomain (Price.ofDecimal v)
  pure (.obj [("price", Field.ofDecimal p.value), ("display", .str p.value.render)])

/-- The thresholds of a robot, or `null`. -/
def thresholdsJson (r : Robot) : Json :=
  match r.thresholds with
  | some t => .obj [("buy", Field.ofDecimal t.buy.value), ("sell", Field.ofDecimal t.sell.value)]
  | none => .null

/-- A robot with its derived facts, and its eligibility when an instant is given. -/
def robot (req : Json) : Answer := do
  let r ← Request.robot req "robot"
  let now ← optional req "now" (asInstant "now")
  let base := [("robot", r.toJson), ("thresholds", thresholdsJson r),
    ("tradable", .bool r.isTradable), ("invalid_thresholds", .bool r.hasInvalidThresholds)]
  match now with
  | some t => pure (.obj (base ++ [("eligible", .bool (r.eligibleAt t))]))
  | none => pure (.obj base)

/-- One recorded deal: the new robot and the step's answer. -/
def recordStep (r : Robot) (profit : Json) : Robot × Json :=
  match asDecimal profit with
  | .error f => (r, f.toJson)
  | .ok p =>
    match r.recordDeal p with
    | .ok r' => (r', .obj [("fact_yield", Field.ofOption Field.ofDecimal r'.factYield),
        ("deals_count", Field.ofOption .int r'.dealsCount)])
    | .error e => (r, e.fault.toJson)

/-- Deals recorded one after another. -/
def recordDeals (req : Json) : Answer := do
  let r ← Request.robot req "robot"
  let profits ← list req "profits"
  let (final, steps) := profits.foldl
    (fun (acc : Robot × List Json) p =>
      let (r', step) := recordStep acc.1 p
      (r', acc.2 ++ [step])) (r, [])
  pure (.obj [("robot", final.toJson), ("steps", .arr steps)])

/-- A tick from a ticker and two quotes. -/
def tick (req : Json) : Answer := do
  let raw ← string req "symbol"
  let s ← ofDomain (Symbol.ofText raw)
  let buy ← decimal req "buy"
  let sell ← decimal req "sell"
  let t ← ofDomain (PriceTick.ofQuotes s buy sell)
  pure (.obj [("symbol", .str t.symbol.text), ("buy_price", Field.ofDecimal t.buy.value),
    ("sell_price", Field.ofDecimal t.sell.value)])

/-- A tick read from its document and written back. -/
def tickDocument (req : Json) : Answer := do
  let doc ← need req "tick"
  let t ← (PriceTick.ofJson? doc).mapError DecodeError.fault
  pure (.obj [("tick", t.toJson)])

/-- One builder step applied to a robot. -/
def buildStep (r : Robot) (step : Json) : Reading Robot := do
  let op ← string step "op"
  match op with
  | "with_ticker" =>
    let raw ← string step "ticker"
    let s ← ofDomain (Symbol.ofText raw)
    pure (r.withTicker s)
  | "with_thresholds" =>
    let buy ← decimal step "buy"
    let sell ← decimal step "sell"
    pure (r.withThresholds buy sell)
  | "with_plan" =>
    let start ← instant step "start"
    let stop ← instant step "end"
    pure (r.withPlan start stop)
  | "activated" =>
    let t ← instant step "at"
    pure (r.activated (.at t))
  | other => throw (Fault.badInput ("unknown builder " ++ other))

/-- A robot built from a fresh one by the given steps. -/
def robotBuild (req : Json) : Answer := do
  let id ← int req "robot_id"
  let owner ← int req "owner_user_id"
  let steps ← withDefault req "steps" (asList "steps") []
  let r ← steps.foldlM buildStep (Robot.new id owner)
  pure (.obj [("robot", r.toJson), ("tradable", .bool r.isTradable)])

end Service

end RobotTrading
