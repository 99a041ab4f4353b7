import RobotTrading.Json.Read
import RobotTrading.Service.Records
import RobotTrading.Service.Trading
import RobotTrading.Service.Settings
import RobotTrading.Service.Storage
import RobotTrading.Service.Feeds
import RobotTrading.Service.Viewers
import RobotTrading.Service.Clients
import RobotTrading.Service.Reconciling
import RobotTrading.Service.Daemon

/-!
# The request service

A request is one JSON object naming an operation in its `op` field; the answer
is one JSON object. `Service.respond` reads a request line and writes the
answer line.

## Main definitions

* `Service.dispatch` : the answer to a request object.
* `Service.respond` : the answer line to a request line.
-/

namespace RobotTrading

namespace Service

/-- The answer to a request document. -/
def dispatch (req : Json) : Answer :=
  match req.field? "op" with
  | some (.str op) =>
    match op with
    | "symbol" => symbol req
    | "price" => price req
    | "robot" => robot req
    | "record_deals" => recordDeals req
    | "tick" => tick req
    | "tick_serde" => tickDocument req
    | "robot_build" => robotBuild req
    | "deal" => deal req
    | "partition" => partition req
    | "group" => group req
    | "plan" => plan req
    | "config" => config req
    | "store" => store req
    | "sim_feed" => simFeed req
    | "broadcast" => broadcast req
    | "client" => client req
    | "reconcile" => reconcile req
    | "engine" => engine req
    | "worker" => worker req
    | "daemon" => daemon req
    | other => .error (Fault.badInput ("unknown op " ++ other))
  | _ => .error (Fault.missing "op")

/-- The answer line to a request line. -/
def respond (line : String) : String :=
  match Json.parse? line with
  | some req => (stepJson (dispatch req)).render
  | none => (Fault.badInput "input is not JSON").toJson.render

end Service

end RobotTrading
