import RobotTrading.Service.Engine
import RobotTrading.Service.Settings

/-!
# Daemon requests

A daemon is configured from variables, starts the trading engine, runs until
its shutdown signal, then stops the reconciler and shuts the engine down.

In the `"new"` mode the daemon runs over the request's store and a scripted
feed, with the reconcile interval set to `sessionInterval`. Its shutdown
signal first lets every task run, then pushes each quote of the request in
turn, letting every task run after each. The answer gives the number of update
viewers before the run (the session's own), what each push delivered, and the
feed, store, trade writes and updates after the shutdown.

In the `"stub"` and `"from_config"` modes the daemon has an empty store and
the random-walk feed and runs for 50 milliseconds. With no robot to trade it
subscribes to nothing, so only the viewer counts before and after the run are
reported, both zero.

## Main definitions

* `Service.daemon` : the daemon request.
* `Service.startupLine` : what a daemon prints as it starts.
-/

namespace RobotTrading

namespace Service

open Request

/-- Push one quote of a daemon's shutdown signal: the number of streams it reached, or the
    failure. -/
def daemonPush (w : World) (push : Json) : World × Json :=
  let r : Reading (Symbol × Decimal × Decimal) := do
    let s ← symbolField push "symbol"
    let buy ← decimal push "buy"
    let sell ← decimal push "sell"
    pure (s, buy, sell)
  match r with
  | .error f => (w, f.toJson)
  | .ok (s, buy, sell) =>
    match PriceTick.ofQuotes s buy sell with
    | .error e => (w, (FeedError.fault (.domain e)).toJson)
    | .ok t =>
      let (w, n) := w.pushFeed s (.tick t)
      (w, .int n)

/-- The configuration of a daemon request, with non-text variables passed over. -/
def daemonConfig (req : Json) : Reading Config := do
  let lookup ← configLookup req false
  match Config.load lookup with
  | .ok c => pure c
  | .error e => throw (ConfigError.fault e)

/-- A daemon over the request's store and a scripted feed, shut down after the pushes. -/
def daemonRun (cfg : Config) (req : Json) : Answer := do
  let o ← runtimeOptions req false
  let pushes ← withDefault req "pushes" (asList "pushes") []
  let o := { o with
    policy := cfg.engine.dealPolicy
    workerCapacity := cfg.engine.workerCapacity
    resubscribe := cfg.engine.resubscribeStalledFeeds }
  Fault.refuse (Queue.refusal? cfg.engine.hubCapacity)
  let w := o.world
  let before := w.updates.receiverCount
  let (ring, own) := w.updates.subscribe
  let (w, root) := ({ w with updates := ring }).newToken none
  let (w, e) := w.startEngine ⟨root, cfg.engine.hubCapacity, none, none⟩
  let w := w.sleep 1
  let (w, delivered) := pushes.foldl (fun (acc : World × List Json) p =>
    let (w, d) := daemonPush acc.1 p
    (w.sleep 1, acc.2 ++ [d])) (w, [])
  let (w, e, _) := w.stopReconciler e none
  let (w, _) := w.shutdownEngine e none
  let w := { w with updates := w.updates.unsubscribe own }
  let (b, common) := Bench.commonSnapshot ⟨w, none, none, none, root⟩
  let _ := b
  pure (.obj ([("receivers_before", .int before), ("delivered", .arr delivered),
    ("result", .str "ok")] ++ common))

/-- The line a daemon prints as it starts: environment, reconcile period and deal policy. -/
def startupLine (c : Config) : String :=
  "Robotrade Daemon environment=" ++ c.environment.name ++ " reconcile_interval_secs=" ++
    toString (c.engine.reconcileIntervalMs / 1000) ++ " policy=" ++ c.engine.dealPolicy.name

/-- The daemon request. The configuration is loaded before the mode is looked at. -/
def daemon (req : Json) : Answer := do
  let cfg ← daemonConfig req
  let mode := (lenient req "mode" (asString "mode")).getD "new"
  match mode with
  | "new" => daemonRun cfg req
  | "stub" | "from_config" =>
    Fault.refuse (UpdateRing.refusal? cfg.engine.broadcastCapacity)
    Fault.refuse (Queue.refusal? cfg.engine.hubCapacity)
    pure (.obj [("receivers_before", .int 0), ("receivers_after", .int 0), ("result", .str "ok")])
  | other => throw (Fault.badInput ("unknown daemon mode " ++ other))

end Service

end RobotTrading
