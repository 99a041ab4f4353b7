import RobotTrading.Service.Feeds
import RobotTrading.Updates.Ring

/-!
# Update ring requests

A ring of robot updates with viewers, run over a list of operations. Viewers
are numbered in the order they subscribed. Every step reports the number of
live viewers, or `null` once the ring has been closed.

## Main definitions

* `Service.receivedJson` : the document of a read.
* `Service.broadcast` : the update ring request.
-/

namespace RobotTrading

namespace Service

open Request

/-- The document of a read; nothing new reads as `null`. -/
def receivedJson : Received → Json
  | .update r => .obj [("update", r.toJson)]
  | .lagged n => .obj [("lagged", .str ("Receiver lagged, missed " ++ toString n ++ " updates"))]
  | .empty | .closed => .null

/-- A live viewer named by a step; a step that names none names no live viewer. -/
def viewerField (r : UpdateRing) (step : Json) : Reading Nat := do
  let v ← optional step "viewer" (asNat "viewer")
  match v with
  | some v => if r.hasViewer v then pure v else throw (Fault.badInput "no such viewer")
  | none => throw (Fault.badInput "no such viewer")

/-- One ring operation. -/
def ringOp (r : UpdateRing) (op : String) (step : Json) :
    UpdateRing × Except Fault (List (String × Json)) :=
  let fail (f : Fault) := (r, .error f)
  match op with
  | "subscribe" =>
    if r.closed then fail (Fault.badInput "hub closed")
    else
      let (r', v) := r.subscribe
      (r', .ok [("viewer", .int v)])
  | "publish" =>
    if r.closed then fail (Fault.badInput "hub closed")
    else match Request.robot step "robot" with
      | .error f => fail f
      | .ok robot => (r.publish robot, .ok [])
  | "try_recv" => match viewerField r step with
    | .error f => fail f
    | .ok v =>
      let (r', x) := r.receive v
      (r', .ok [("received", receivedJson x)])
  | "recv" => match viewerField r step with
    | .error f => fail f
    | .ok v =>
      match r.receive v with
      | (_, .empty) => (r, .ok [("timeout", .bool true)])
      | (r', x) => (r', .ok [("received", receivedJson x)])
  | "drop" => match viewerField r step with
    | .error f => fail f
    | .ok v => (r.unsubscribe v, .ok [])
  | "close_hub" => (r.close, .ok [])
  | other => fail (Fault.badInput ("unknown broadcast op " ++ other))

/-- One step of a ring request. -/
def ringStep (r : UpdateRing) (step : String × Json) : UpdateRing × Json :=
  let (r', res) := ringOp r step.1 step.2
  let fields := stepFields res
  let receivers : Json := if r'.closed then .null else .int r'.receiverCount
  (r', .obj (fields ++ [("receivers", receivers)]))

/-- Ring operations run over a new ring of the request's capacity. A capacity the ring
    refuses fails first; then every step must name its operation before any runs. -/
def broadcast (req : Json) : Answer := do
  let capacity ← withDefault req "capacity" (asNat "capacity") 256
  Fault.refuse (UpdateRing.refusal? capacity)
  let ops ← (← list req "ops").mapM namedStep
  let (_, steps) := ops.foldl (fun (acc : UpdateRing × List Json) step =>
    let (r', a) := ringStep acc.1 step
    (r', acc.2 ++ [a])) (UpdateRing.new capacity, [])
  pure (.obj [("steps", .arr steps)])

end Service

end RobotTrading
