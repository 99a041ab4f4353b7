import RobotTrading.Service.Trading
import RobotTrading.Store.Memory

/-!
# Store requests

A store built from a robot list runs a list of operations. Every step reports
the number of records and of successful trade writes after it, next to the
operation's own answer or failure.

## Main definitions

* `StoreError.fault` : the kinds of store failures.
* `Service.storeOp` : one store operation of a step.
* `Service.store` : the store request.
-/

namespace RobotTrading

namespace Service

open Request

/-- The failure of a store error. -/
def StoreError.fault (e : StoreError) : Fault :=
  match e with
  | .notFound _ _ => ⟨"NotFound", some e.message⟩
  | .database _ => ⟨"Database", some e.message⟩
  | .connection _ => ⟨"Connection", some e.message⟩
  | .deserialization _ => ⟨"Deserialization", some e.message⟩

/-- The fields of a step's failure. -/
def faultFields (f : Fault) : List (String × Json) :=
  [("error", .str f.kind)] ++ (f.message.map fun m => [("message", .str m)]).getD []

/-- The fields of a step's answer or failure. -/
def stepFields : Except Fault (List (String × Json)) → List (String × Json)
  | .ok fs => fs
  | .error f => faultFields f

/-- A store change that may fail. -/
def storeChange (s : Store) (r : Except StoreError Store) : Store × Except Fault (List (String × Json)) :=
  match r with
  | .ok s' => (s', .ok [])
  | .error e => (s, .error (StoreError.fault e))

/-- One store operation, or `none` when the step names another operation. -/
def storeOp (s : Store) (op : String) (step : Json) :
    Option (Store × Except Fault (List (String × Json))) :=
  let fail (f : Fault) := some (s, .error f)
  match op with
  | "upsert" => some <| match Request.robot step "robot" with
    | .ok r => (s.upsert r, .ok [])
    | .error f => (s, .error f)
  | "set_active" =>
    let active := need step "active" >>= fun v => match v with
      | .bool b => .ok b
      | _ => .error (Fault.badInput "active must be a boolean")
    match active, int step "id" with
    | .ok active, .ok id => some (storeChange s (s.setActive id active))
    | .error f, _ => fail f
    | _, .error f => fail f
  | "soft_delete" => match int step "id" with
    | .ok id => some (storeChange s (s.softDelete id))
    | .error f => fail f
  | "get" | "find_by_id" => match int step "id" with
    | .ok id => some (s, .ok [("robot", Field.ofOption Robot.toJson (s.get? id))])
    | .error f => fail f
  | "find_active" => match instant step "now" with
    | .ok now => some (s, .ok [("robots", robotsJson (s.findActive now))])
    | .error f => fail f
  | "save_trade" => match Request.robot step "robot" with
    | .ok r =>
      let (s', res) := s.saveTrade r
      some (s', match res with
        | .ok () => .ok []
        | .error e => .error (StoreError.fault e))
    | .error f => fail f
  | "fail_next_trades" => match withDefault step "count" (asNat "count") 0 with
    | .ok n => some (s.failNextTrades n, .ok [])
    | .error f => fail f
  | "clear" => some (s.clear, .ok [])
  | _ => none

/-- One step of a store request. -/
def storeStep (s : Store) (named : String × Json) : Store × Json :=
  let (op, step) := named
  let (s', fields) := match storeOp s op step with
    | some (s', r) => (s', stepFields r)
    | none => (s, faultFields (Fault.badInput ("unknown store op " ++ op)))
  (s', .obj (fields ++ [("count", .int s'.count), ("trade_writes", .int s'.tradeWrites)]))

/-- Store operations run over a store built from the request's robots. Every step must name
    its operation before any runs. -/
def store (req : Json) : Answer := do
  let robots ← withDefault req "robots" (fun v => do
    let items ← asList "robots" v
    items.mapM asRobot) []
  let ops ← (← list req "ops").mapM namedStep
  let (_, steps) := ops.foldl (fun (acc : Store × List Json) step =>
    let (s', a) := storeStep acc.1 step
    (s', acc.2 ++ [a])) (Store.ofRobots robots, [])
  pure (.obj [("steps", .arr steps)])

end Service

end RobotTrading
