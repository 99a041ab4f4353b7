import RobotTrading.Deal.Codec
import RobotTrading.Reconcile.Plan
import RobotTrading.Service.Records

/-!
# Requests on deals and robot sets

Answers to running a deal machine over steps, splitting a robot list against
held identifiers, grouping robots by symbol, and planning a reconcile pass.

## Main definitions

* `Service.deal`, `Service.partition`, `Service.group`, `Service.plan`.
-/

namespace RobotTrading

namespace Service

open Request

/-- A positive price read from a request field. -/
def priceField (req : Json) (key : String) : Reading Price := do
  let d ← decimal req key
  ofDomain (Price.ofDecimal d)

/-- The policy of a request, the default when absent. -/
def policyField (req : Json) : Reading DealPolicy :=
  withDefault req "policy" (fun v => (DealPolicy.ofJson? v).mapError DecodeError.fault) default

/-- One deal step: four prices in order, then one tick of the machine. -/
def dealStep (m : DealMachine) (step : Json) : DealMachine × Json :=
  let read : Reading (Thresholds × Price × Price) := do
    let bt ← priceField step "buy_threshold"
    let st ← priceField step "sell_threshold"
    let b ← priceField step "buy"
    let s ← priceField step "sell"
    pure (⟨bt, st⟩, b, s)
  let (m', head) := match read with
    | .ok (t, b, s) =>
      let (m', o) := m.onTick t b s
      (m', [("outcome", o.toJson)])
    | .error f =>
      (m, [("error", .str f.kind)] ++ (f.message.map fun msg => [("message", .str msg)]).getD [])
  (m', .obj (head ++ [("state", m'.state.toJson),
    ("last_deal", Field.ofOption CompletedDeal.toJson m'.lastDeal)]))

/-- A deal machine run over the request's steps. -/
def deal (req : Json) : Answer := do
  let policy ← policyField req
  let steps ← list req "steps"
  let (_, answers) := steps.foldl (fun (acc : DealMachine × List Json) step =>
    let (m', a) := dealStep acc.1 step
    (m', acc.2 ++ [a])) (DealMachine.new policy, [])
  pure (.obj [("policy", .str policy.name), ("steps", .arr answers)])

/-- The identifiers of a request array of integers. -/
def idList (req : Json) (key : String) : Reading (List Int) := do
  let items ← withDefault req key (asList key) []
  items.mapM fun v => match v with
    | .int i => if isInt64 i then .ok i else .error (Fault.badInput (key ++ " must hold integers"))
    | _ => .error (Fault.badInput (key ++ " must hold integers"))

/-- The symbols of an optional request array, read in order: the first item that is not a
    text, or whose text is not a symbol, fails. -/
def symbolList (req : Json) (key : String) : Reading (List Symbol) := do
  let items ← withDefault req key (asList key) []
  items.mapM fun v => match v with
    | .str s => ofDomain (Symbol.ofText s)
    | _ => .error (Fault.badInput (key ++ " must hold strings"))

/-- The robots of an optional request array. -/
def robotList (req : Json) (key : String) : Reading (List Robot) := do
  let items ← withDefault req key (asList key) []
  items.mapM asRobot

/-- The document of a list of robots. -/
def robotsJson (rs : List Robot) : Json := .arr (rs.map Robot.toJson)

/-- The document of a list of identifiers. -/
def idsJson (ids : List Int) : Json := .arr (ids.map .int)

/-- A robot list split against held identifiers. -/
def partition (req : Json) : Answer := do
  let current ← idList req "current"
  let robots ← robotList req "robots"
  let d := MembershipDelta.partition current robots
  pure (.obj [("added", robotsJson d.added), ("removed", idsJson d.removed),
    ("retained", robotsJson d.retained), ("added_ids", idsJson d.addedIds),
    ("retained_ids", idsJson d.retainedIds), ("unchanged", .bool d.isUnchanged)])

/-- Robots grouped by symbol. -/
def group (req : Json) : Answer := do
  let robots ← robotList req "robots"
  let groups := SymbolGroups.ofRobots robots
  pure (.obj [("groups", .arr (groups.map fun (s, rs) =>
    .obj [("symbol", .str s.text), ("robots", robotsJson rs)]))])

/-- The document of symbol groups by identifiers. -/
def groupIdsJson (g : SymbolGroups) : Json :=
  .arr (g.map fun (s, rs) => .obj [("symbol", .str s.text), ("robot_ids", idsJson (rs.map (·.robotId)))])

/-- The document of a list of symbols. -/
def symbolsJson (ss : List Symbol) : Json := .arr (ss.map fun s => .str s.text)

/-- A reconcile plan for the known tickers and robots. -/
def plan (req : Json) : Answer := do
  let known ← symbolList req "known"
  let robots ← robotList req "robots"
  let p := ReconcilePlan.ofGroups (Ascending.ofList known) (SymbolGroups.ofRobots robots)
  pure (.obj [("register", groupIdsJson p.register), ("unregister", symbolsJson p.unregister),
    ("broadcast", groupIdsJson p.broadcast), ("next_known", symbolsJson p.nextKnown),
    ("changes_workers", .bool p.changesWorkers)])

end Service

end RobotTrading
