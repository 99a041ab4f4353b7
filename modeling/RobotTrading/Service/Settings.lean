import RobotTrading.Config.Load
import RobotTrading.Deal.Codec
import RobotTrading.Service.Records

/-!
# Configuration requests

The configuration of a variable set, or of a named preset, as a document.
Variables are given as an object of texts; `null` leaves a variable unset.

## Main definitions

* `Service.configLookup` : the lookup of a request's variables.
* `Service.config` : the configuration request.
-/

namespace RobotTrading

-- Powers of naturals and integers are the core ones (`Nat.pow`, `Int.pow`), also where a
-- larger library brings its own.
attribute [local instance (high)] instPowNat

namespace Service

open Request

/-- The failure of a refused configuration. -/
def ConfigError.fault (e : ConfigError) : Fault := ⟨"Config", some ("Configuration error: " ++ e.message)⟩

/-- The lookup of a variables object; with `strict`, a value other than a text or `null`
    is a malformed request, otherwise it is skipped. -/
def configLookup (req : Json) (strict : Bool) : Reading Config.Lookup := do
  let vars := match req.field? "vars" with
    | some v => v.members
    | none => []
  let texts ← vars.filterMapM fun (k, v) => match v with
    | .str s => pure (some (k, s))
    | .null => pure none
    | _ => if strict then throw (Fault.badInput "vars values must be strings or null") else pure none
  pure fun key => texts.lookup key

/-- The document of a configuration. Durations are written in milliseconds as unsigned
    64-bit words, so a longer duration wraps around. -/
def configJson (c : Config) : Json :=
  .obj [("environment", .str c.environment.name),
    ("engine", .obj [("reconcile_interval_ms", .int (c.engine.reconcileIntervalMs % 2 ^ (64 : Nat))),
      ("hub_capacity", .int c.engine.hubCapacity), ("worker_capacity", .int c.engine.workerCapacity),
      ("deal_policy", .str c.engine.dealPolicy.name),
      ("resubscribe_stalled_feeds", .bool c.engine.resubscribeStalledFeeds),
      ("broadcast_capacity", .int c.engine.broadcastCapacity)]),
    ("feed", .obj [("start_price", Field.ofDecimal c.feed.startPrice),
      ("spread", Field.ofDecimal c.feed.spread), ("max_step", Field.ofDecimal c.feed.maxStep),
      ("interval_ms", .int c.feed.intervalMs)]),
    ("database", .obj [("url", Field.ofOption .str c.database.url),
      ("max_connections", .int c.database.maxConnections)])]

/-- The configuration of a preset or of the request's variables; a preset that is not a text
    counts as absent. -/
def config (req : Json) : Answer := do
  match lenient req "preset" (asString "preset") with
  | some name =>
    match name with
    | "default" => pure (configJson Config.default)
    | "test" => pure (configJson Config.test)
    | other => throw (Fault.badInput ("unknown preset " ++ other))
  | none =>
    let vars ← configLookup req true
    match Config.load vars with
    | .ok c => pure (configJson c)
    | .error e => throw (ConfigError.fault e)

end Service

end RobotTrading
