import RobotTrading.Engine.Session
import RobotTrading.Service.Clients
import RobotTrading.Service.Feeds
import RobotTrading.Service.Reconciling

/-!
# Engine and worker requests

An engine request runs the trading engine, or a bare hub, against a scripted
feed, a store and an update ring; a worker request runs one symbol worker.
Both run a list of operations. After setting up, and after each operation,
the session sleeps one millisecond of virtual time, so that every task has
run, and then reports a snapshot: the feed's subscriptions, the store's rows,
the successful trade writes, the updates published since the last step, and
either the hub's symbols with their robots and whether the reconciler runs,
or the worker's state. An operation marked `"settle": false` skips the sleep
and the snapshot, so no other task runs before the next operation.

Questions to the hub or to a worker are bounded by `queryBound` milliseconds
and answer `Timeout` when blocked; stopping is bounded by `stopBound`.

## Main definitions

* `Service.RuntimeOptions`, `Service.runtimeOptions` : the shared request fields.
* `Service.Bench` : what a session drives.
* `Service.sharedOp` : the operations on the feed, the store and the clock.
* `Service.engine`, `Service.worker` : the two requests.
-/

namespace RobotTrading

namespace Service

open Request

/-- The wall-clock time of a session, at which robots are checked for eligibility. -/
def sessionClock : Instant := ⟨1794528000, 0⟩

/-- The reconcile interval of a session, in milliseconds. -/
def sessionInterval : Nat := 1000000

/-- The request fields shared by the runtime requests. -/
structure RuntimeOptions where
  /-- The store's robots. -/
  store : List Robot
  /-- Trade writes hang from the start. -/
  stallTrades : Bool
  /-- The deal policy of new clients. -/
  policy : DealPolicy
  /-- Reopen dead streams on the next robot list. -/
  resubscribe : Bool
  /-- The bound of a worker's command queue. -/
  workerCapacity : Nat
  /-- The bound of every price stream. -/
  feedCapacity : Nat
  /-- Subscriptions that fail from the start. -/
  failSubscribe : Nat
  /-- The size of the update ring. -/
  broadcastCapacity : Nat

/-- Read the shared request fields: the feed and the update ring first (a ring size the ring
    refuses fails at once), then the store and the trade stall, then, when `clientFields`, the
    worker queue bound, resubscription and deal policy, which otherwise keep their defaults
    (a daemon takes them from its configuration). -/
def runtimeOptions (req : Json) (clientFields : Bool) : Reading RuntimeOptions := do
  let feedCapacity ← withDefault req "feed_capacity" (asNat "feed_capacity") 64
  let failSubscribe ← withDefault req "fail_subscribe" (asNat "fail_subscribe") 0
  let broadcastCapacity ← withDefault req "broadcast_capacity" (asNat "broadcast_capacity") 1024
  Fault.refuse (UpdateRing.refusal? broadcastCapacity)
  let store ← withDefault req "store" (fun v => do
    let items ← asList "store" v
    items.mapM asRobot) []
  let stall ← withDefault req "stall_trades" (asFlag "stall_trades") false
  if clientFields then
    let workerCapacity ← withDefault req "worker_capacity" (asNat "worker_capacity") 8
    let resubscribe ← withDefault req "resubscribe" (asFlag "resubscribe") true
    let policy ← policyField req
    pure ⟨store, stall, policy, resubscribe, workerCapacity, feedCapacity, failSubscribe,
      broadcastCapacity⟩
  else
    pure ⟨store, stall, default, true, 8, feedCapacity, failSubscribe, broadcastCapacity⟩

/-- The world of a session: its store, feed and update ring, with the session's viewer. -/
def RuntimeOptions.world (o : RuntimeOptions) : World :=
  let feed := { ScriptedFeed.new o.feedCapacity with failSubscribes := o.failSubscribe }
  let (ring, _) := (UpdateRing.new o.broadcastCapacity).subscribe
  { World.new ⟨o.policy, o.workerCapacity, o.resubscribe⟩ (Store.ofRobots o.store) feed ring
      sessionClock sessionInterval with stallTrades := o.stallTrades }

/-- What a session drives. -/
structure Bench where
  /-- The world. -/
  world : World
  /-- The engine, until it is shut down. -/
  engine : Option Engine
  /-- A hub spawned without an engine. -/
  standalone : Option Running
  /-- The handle of the session's worker, until it is given up. -/
  worker : Option Nat
  /-- The token the session's worker was made under. -/
  parent : Nat

/-- A step's answer. -/
abbrev StepResult := Except Fault (List (String × Json))

/-- Change the bench's world. -/
def Bench.withWorld (b : Bench) (w : World) : Bench := { b with world := w }

/-- The object of a timed-out wait. -/
def timeoutJson : Json := Fault.timeout.toJson

/-- The object of a closed hub. -/
def hubClosedJson : Json := (DaemonError.fault .hubClosed).toJson

/-- The document of a membership change. -/
def deltaJson (d : MembershipDelta) : Json :=
  .obj [("added", robotsJson d.added), ("removed", idsJson d.removed),
    ("retained", robotsJson d.retained), ("added_ids", idsJson d.addedIds),
    ("retained_ids", idsJson d.retainedIds), ("unchanged", .bool d.isUnchanged)]

/-- The symbol of a step's field. -/
def symbolField (step : Json) (key : String) : Reading Symbol := do
  let raw ← string step key
  ofDomain (Symbol.ofText raw)

/-- The robots of a step's field, none when it is missing. -/
def robotsField (step : Json) (key : String) : Reading (List Robot) := do
  let items ← withDefault step key (asList key) []
  items.mapM asRobot

/-- Run a reading step: a malformed step changes nothing. -/
def reading (b : Bench) (r : Reading (Bench × StepResult)) : Bench × StepResult :=
  match r with
  | .ok x => x
  | .error f => (b, .error f)

/-- The operations on the feed, the store and the clock, or `none` for another operation. -/
def sharedOp (b : Bench) (op : String) (step : Json) : Option (Bench × StepResult) :=
  let w := b.world
  match op with
  | "push" => some <| reading b do
    let s ← symbolField step "symbol"
    let buy ← decimal step "buy"
    let sell ← decimal step "sell"
    match PriceTick.ofQuotes s buy sell with
    | .error e => pure (b, .error (FeedError.fault (.domain e)))
    | .ok t =>
      let (w, n) := w.pushFeed s (.tick t)
      pure (b.withWorld w, .ok [("delivered", .int n)])
  | "fail" => some <| reading b do
    let s ← symbolField step "symbol"
    let reason := (lenient step "message" (asString "message")).getD "stream failure"
    let (w, n) := w.failFeed s reason
    pure (b.withWorld w, .ok [("delivered", .int n)])
  | "close" => some <| reading b do
    let s ← symbolField step "symbol"
    pure (b.withWorld (w.closeFeed s), .ok [])
  | "fail_next_subscribe" => some <| reading b do
    let n ← withDefault step "count" (asNat "count") 0
    pure (b.withWorld { w with feed := { w.feed with failSubscribes := n } }, .ok [])
  | "settle" => some (b, .ok [])
  | "advance" => some <| reading b do
    let ms ← withDefault step "ms" (asNat "ms") 0
    pure (b.withWorld (w.sleep ms), .ok [])
  | "stall_trades" => some <| reading b do
    let on ← withDefault step "on" (asFlag "on") true
    pure (b.withWorld { w with stallTrades := on }, .ok [])
  | "fail_reads" => some <| reading b do
    let on ← withDefault step "on" (asFlag "on") true
    pure (b.withWorld { w with failReads := on }, .ok [])
  | _ => (storeOp w.store op step).map fun (s, r) => (b.withWorld { w with store := s }, r)

/-- The snapshot fields every session reports: feed subscriptions, store rows, trade writes,
    and the updates published since the last snapshot. -/
def Bench.commonSnapshot (b : Bench) : Bench × List (String × Json) :=
  let w := b.world
  let (ring, received) := drainViewer w.updates 0 (w.updates.capacity + 1)
  let updates := received.filterMap fun x => match x with
    | .update r => some r.compact
    | .lagged n => some (.str ("Receiver lagged, missed " ++ toString n ++ " updates"))
    | _ => none
  let feed := w.feed.summary.map fun (s, o, n) => Json.arr [.str s.text, .int o, .int n]
  (b.withWorld { w with updates := ring },
    [("feed", .arr feed), ("store", .arr (w.store.rows.map Robot.compact)),
      ("trade_writes", .int w.store.tradeWrites), ("updates", .arr updates)])

/-- The hub's symbols, each with its worker's robots, or the failure of the question. -/
def symbolRows (w : World) : World × Json :=
  match w.querySymbols with
  | (w, .ok ss) =>
    let (w, rows) := ss.foldl (fun (acc : World × List Json) s =>
      let (w, r) := acc.1.queryRobotIds s
      let ids := match r with
        | .ok (some ids) => idsJson ids
        | .ok none => .null
        | .closed => hubClosedJson
        | .timeout => timeoutJson
      (w, acc.2 ++ [.arr [.str s.text, ids]])) (w, [])
    (w, .arr rows)
  | (w, .closed) => (w, hubClosedJson)
  | (w, .timeout) => (w, timeoutJson)

/-- The snapshot of an engine session. -/
def Bench.engineSnapshot (b : Bench) : Bench × List (String × Json) :=
  let (b, common) := b.commonSnapshot
  let (w, symbols) := symbolRows b.world
  let running := match b.engine with
    | some e => .bool e.reconciler.isSome
    | none => .null
  (b.withWorld w, common ++ [("symbols", symbols), ("running", running)])

/-- The row of an attached robot: identifier, decision state, results and thresholds. -/
def workerRow (row : Int × Option Robot × Option DealState) : Json :=
  let (id, robot, st) := row
  let dec (f : Robot → Option Decimal) := Field.ofOption Field.ofDecimal (robot.bind f)
  .arr [.int id, Field.ofOption DealState.toJson st, dec (·.factYield),
    Field.ofOption .int (robot.bind (·.dealsCount)), dec (·.buyPrice), dec (·.sellPrice)]

/-- The snapshot of a worker session. -/
def Bench.workerSnapshot (b : Bench) : Bench × List (String × Json) :=
  let (b, common) := b.commonSnapshot
  match b.worker with
  | none => (b, common ++ [("worker", .null)])
  | some wid =>
    match b.world.worker? wid with
    | none => (b, common ++ [("worker", .null)])
    | some k =>
      let (w, rows) := b.world.workerRows wid
      let robots := match rows with
        | some rs => .arr (rs.map workerRow)
        | none => timeoutJson
      (b.withWorld w, common ++ [("worker", .obj [("symbol", .str k.symbol.text),
        ("streaming", .bool k.streaming), ("robots", robots)])])

/-- Send a command to the hub as the session. -/
def sendCommand (b : Bench) (c : HubCommand) : Bench × StepResult :=
  match b.world.requestHub none (.command c) with
  | (w, .ok ()) => (b.withWorld w, .ok [])
  | (w, .closed) => (b.withWorld w, .error (DaemonError.fault .hubClosed))
  | (w, .timeout) => (b.withWorld w, .error Fault.timeout)

/-- One engine operation. -/
def engineOp (b : Bench) (op : String) (step : Json) : Bench × StepResult :=
  let w := b.world
  let noEngine : Bench × StepResult := (b, .error (Fault.badInput "no engine"))
  match op with
  | "reconcile" => (b.withWorld (w.sleep sessionInterval), .ok [])
  | "start" =>
    match b.engine with
    | some e =>
      let (w, e) := w.startEngine e
      ({ b with world := w, engine := some e }, .ok [])
    | none => noEngine
  | "stop" =>
    match b.engine with
    | some e =>
      let (w, e, _) := w.stopReconciler e (some (w.clock + stopBound))
      ({ b with world := w, engine := some e }, .ok [])
    | none => noEngine
  | "shutdown" =>
    match b.engine with
    | some e =>
      let (w, _) := w.shutdownEngine e (some (w.clock + stopBound))
      ({ b with world := w, engine := none }, .ok [])
    | none => noEngine
  | "cancel_hub" =>
    match b.standalone with
    | some h =>
      let w := w.cancel h.token
      let (w, _) := w.awaitTask (some (w.clock + stopBound)) h.task
      (b.withWorld w, .ok [])
    | none => (b, .error (Fault.badInput "no standalone hub"))
  | "register" => reading b do
    let s ← symbolField step "symbol"
    let robots ← robotsField step "robots"
    pure (sendCommand b (.register s robots))
  | "unregister" => reading b do
    let s ← symbolField step "symbol"
    pure (sendCommand b (.unregister s))
  | "broadcast" => reading b do
    let s ← symbolField step "symbol"
    let robots ← robotsField step "robots"
    pure (sendCommand b (.broadcast s robots))
  | "robot_ids" => reading b do
    let s ← symbolField step "symbol"
    let (w, r) := w.queryRobotIds s
    let ids := match r with
      | .ok (some ids) => idsJson ids
      | .ok none => .null
      | .closed => hubClosedJson
      | .timeout => timeoutJson
    pure (b.withWorld w, .ok [("robot_ids", ids)])
  | "hub_closed" =>
    let closed := match w.hub with
      | some h => h.requests.receiverOpen = false
      | none => true
    let hasHub := match b.engine with
      | some e => .bool e.hub.isSome
      | none => .null
    (b, .ok [("closed", .bool closed), ("has_hub", hasHub)])
  | other =>
    match sharedOp b other step with
    | some r => r
    | none => (b, .error (Fault.badInput ("unknown engine op " ++ other)))

/-- One worker operation. -/
def workerOp (b : Bench) (op : String) (step : Json) : Bench × StepResult :=
  let w := b.world
  let stopped : Bench × StepResult := (b, .error (Fault.badInput "worker stopped"))
  match op with
  | "apply" =>
    match b.worker with
    | none => stopped
    | some wid => reading b do
      let robots ← robotsField step "robots"
      let wait := (lenient step "wait" (asFlag "wait")).getD true
      let sym := ((w.worker? wid).map (·.symbol)).getD ⟨""⟩
      if wait then
        match w.applyAndWait wid robots with
        | (w, .ok d) => pure (b.withWorld w, .ok [("delta", deltaJson d)])
        | (w, .closed) => pure (b.withWorld w, .error (DaemonError.fault (.workerClosed sym)))
        | (w, .timeout) => pure (b.withWorld w, .error Fault.timeout)
      else
        match w.tryCommand wid ⟨robots, none⟩ with
        | .ok w => pure (b.withWorld w, .ok [])
        | .error .full => pure (b, .error (DaemonError.fault (.workerBusy sym)))
        | .error .closed => pure (b, .error (DaemonError.fault (.workerClosed sym)))
  | "stop" =>
    match b.worker with
    | some wid =>
      let (w, _) := w.stopWorker wid
      ({ b with world := w, worker := none }, .ok [])
    | none => stopped
  | "cancel" =>
    match b.worker with
    | some wid => ({ b with world := w.cancelWorker wid, worker := none }, .ok [])
    | none => stopped
  | "cancel_parent" => (b.withWorld (w.cancel b.parent), .ok [])
  | "drop" =>
    match b.worker with
    | some wid => ({ b with world := w.dropHandle wid, worker := none }, .ok [])
    | none => stopped
  | other =>
    match sharedOp b other step with
    | some r => r
    | none => (b, .error (Fault.badInput ("unknown worker op " ++ other)))

/-- The step is settled unless it says `"settle": false`. -/
def settles (step : Json) : Bool :=
  match step.get? "settle" with
  | some (.bool false) => false
  | _ => true

/-- One step of a session: the operation, then, when settled, a millisecond of sleep and the
    snapshot. A step that names no operation is answered by its failure alone. -/
def sessionStep (op : Bench → String → Json → Bench × StepResult)
    (snapshot : Bench → Bench × List (String × Json)) (b : Bench) (step : Json) : Bench × Json :=
  match string step "op" with
  | .error f => (b, .obj (faultFields f))
  | .ok name =>
    let (b, r) := op b name step
    let fields := stepFields r
    if settles step then
      let (b, snap) := snapshot (b.withWorld (b.world.sleep 1))
      (b, .obj (fields ++ snap))
    else (b, .obj fields)

/-- Settle a new session, then run its steps: the initial snapshot and every step's answer. -/
def runSession (op : Bench → String → Json → Bench × StepResult)
    (snapshot : Bench → Bench × List (String × Json)) (b : Bench) (ops : List Json) : Json :=
  let (b, initial) := snapshot (b.withWorld (b.world.sleep 1))
  let (_, steps) := ops.foldl (fun (acc : Bench × List Json) step =>
    let (b, a) := sessionStep op snapshot acc.1 step
    (b, acc.2 ++ [a])) (b, [])
  .obj [("initial", .obj initial), ("steps", .arr steps)]

/-- The engine request: an engine with a reconciler, or a bare hub. -/
def engine (req : Json) : Answer := do
  let o ← runtimeOptions req true
  let hubCapacity ← withDefault req "hub_capacity" (asNat "hub_capacity") 16
  let withReconciler ← withDefault req "reconciler" (asFlag "reconciler") true
  let ops ← list req "ops"
  Fault.refuse (Queue.refusal? hubCapacity)
  let (w, root) := o.world.newToken none
  let b : Bench :=
    if withReconciler then
      let (w, e) := w.startEngine ⟨root, hubCapacity, none, none⟩
      ⟨w, some e, none, none, root⟩
    else
      let (w, tok) := w.newToken none
      let (w, t) := w.spawnHub hubCapacity tok
      ⟨w, none, some ⟨tok, t⟩, none, root⟩
  pure (runSession engineOp Bench.engineSnapshot b ops)

/-- The worker request: one symbol worker under a token of the session's. -/
def worker (req : Json) : Answer := do
  let o ← runtimeOptions req true
  let s ← symbolField req "symbol"
  let robots ← robotsField req "robots"
  let ops ← list req "ops"
  Fault.refuse (Queue.refusal? o.workerCapacity)
  let (w, parent) := o.world.newToken none
  let (w, wid) := w.spawnWorker s robots parent
  pure (runSession workerOp Bench.workerSnapshot ⟨w, none, none, some wid, parent⟩ ops)

end Service

end RobotTrading
