import RobotTrading.Reconcile.Pass
import RobotTrading.Service.Clients

/-!
# Reconcile requests

A reconciler runs passes against a store whose reads can be made to fail, and
a hub that records the commands it is sent until it is closed. Every step
reports the reconciler's known symbols.

## Main definitions

* `DaemonError.fault`, `HubCommand.toJson`.
* `Service.reconcile` : the reconcile request.
-/

namespace RobotTrading

namespace Service

open Request

/-- The failure of a daemon error. -/
def DaemonError.fault (e : DaemonError) : Fault :=
  match e with
  | .store _ => ⟨"Store", some e.message⟩
  | .hubClosed => ⟨"HubClosed", some e.message⟩
  | .workerClosed _ => ⟨"WorkerClosed", some e.message⟩
  | .workerBusy _ => ⟨"WorkerBusy", some e.message⟩
  | .config _ => ⟨"Config", some e.message⟩

/-- The document of a sent command: its kind, symbol and robot identifiers. -/
def HubCommand.toJson : HubCommand → Json
  | .register s rs => .arr [.str "register", .str s.text, idsJson (rs.map (·.robotId))]
  | .unregister s => .arr [.str "unregister", .str s.text]
  | .broadcast s rs => .arr [.str "broadcast", .str s.text, idsJson (rs.map (·.robotId))]

/-- The document of a pass summary. -/
def summaryJson (s : ReconcileSummary) : Json :=
  .obj [("robots", .int s.robots), ("registered", .int s.registered),
    ("unregistered", .int s.unregistered), ("broadcast", .int s.broadcast)]

/-- The read failure a store can be made to give. -/
def injectedReadFailure : StoreError := .connection "injected read failure"

/-- The world of a reconcile request. -/
structure ReconcileBench where
  /-- The store. -/
  store : Store
  /-- Reads of the eligible robots fail. -/
  failReads : Bool
  /-- The symbols known to the reconciler, ascending. -/
  known : List Symbol
  /-- The hub still takes commands. -/
  hubOpen : Bool

/-- One pass at `now`: the commands sent and the answer. A closed hub takes no command. -/
def reconcilePass (b : ReconcileBench) (now : Instant) : ReconcileBench × List (String × Json) :=
  let read := if b.failReads then .error injectedReadFailure else .ok (b.store.findActive now)
  let r := reconcileOnce b.known read (if b.hubOpen then none else some 0)
  let sent := ("commands", Json.arr (r.sent.map HubCommand.toJson))
  ({ b with known := r.known }, match r.result with
    | .ok s => [sent, ("summary", summaryJson s)]
    | .error e => faultFields (DaemonError.fault e) ++ [sent])

/-- One reconcile operation. -/
def reconcileOp (b : ReconcileBench) (op : String) (step : Json) :
    ReconcileBench × Except Fault (List (String × Json)) :=
  let fail (f : Fault) := (b, .error f)
  match op with
  | "pass" => match instant step "now" with
    | .error f => fail f
    | .ok now =>
      let (b', fs) := reconcilePass b now
      (b', .ok fs)
  | "seed" =>
    let read : Reading (List Symbol) := do
      let items ← withDefault step "symbols" (asList "symbols") []
      items.mapM fun v => match v with
        | .str raw => ofDomain (Symbol.ofText raw)
        | _ => throw (Fault.badInput "symbols must hold strings")
    match read with
    | .error f => fail f
    | .ok syms =>
      if b.hubOpen then
        let known := Ascending.ofList syms
        ({ b with known := known }, .ok [("seeded", .int known.length)])
      else fail (DaemonError.fault .hubClosed)
  | "close_hub" => ({ b with hubOpen := false }, .ok [])
  | "fail_reads" => match withDefault step "on" (asFlag "on") true with
    | .error f => fail f
    | .ok on => ({ b with failReads := on }, .ok [])
  | other => match storeOp b.store other step with
    | some (s', r) => ({ b with store := s' }, r)
    | none => fail (Fault.badInput ("unknown reconcile op " ++ other))

/-- One step of a reconcile request. -/
def reconcileStep (b : ReconcileBench) (step : String × Json) : ReconcileBench × Json :=
  let (b', res) := reconcileOp b step.1 step.2
  let fields := stepFields res
  (b', .obj (fields ++ [("known", symbolsJson b'.known)]))

/-- Reconcile operations run over a store built from the request's robots. Every step must
    name its operation before any runs. -/
def reconcile (req : Json) : Answer := do
  let robots ← withDefault req "store" (fun v => do
    let items ← asList "store" v
    items.mapM asRobot) []
  let ops ← list req "ops"
  let ops ← ops.mapM namedStep
  let (_, steps) := ops.foldl (fun (acc : ReconcileBench × List Json) step =>
    let (b', a) := reconcileStep acc.1 step
    (b', acc.2 ++ [a])) (⟨Store.ofRobots robots, false, [], true⟩, [])
  pure (.obj [("steps", .arr steps)])

end Service

end RobotTrading
