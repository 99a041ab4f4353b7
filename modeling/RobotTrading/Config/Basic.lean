import RobotTrading.Deal.Machine

/-!
# Daemon configuration

The settings of the trading daemon: the engine's timing and queue sizes, the
simulated feed's random walk, the database connection and the environment.
`Config.default` holds the defaults; `Config.test` the short timings for tests.

## Main definitions

* `Environment`, `EngineConfig`, `FeedConfig`, `DatabaseConfig`, `Config`.
* `Config.default`, `Config.test`.
-/

namespace RobotTrading

/-- Where the daemon runs. -/
inductive Environment where
  | test
  | development
  | production
deriving DecidableEq

/-- The name of an environment. -/
def Environment.name : Environment → String
  | .test => "test"
  | .development => "development"
  | .production => "production"

/-- Engine settings. -/
structure EngineConfig where
  /-- Period of the reconcile pass, in milliseconds. -/
  reconcileIntervalMs : Nat
  /-- Bound of the hub's command queue. -/
  hubCapacity : Nat
  /-- Bound of each symbol worker's command queue. -/
  workerCapacity : Nat
  /-- Legs a single tick may execute. -/
  dealPolicy : DealPolicy
  /-- Reopen a dead price stream when the symbol is reconciled again. -/
  resubscribeStalledFeeds : Bool
  /-- Ring size of the robot update broadcast. -/
  broadcastCapacity : Nat
deriving DecidableEq

/-- Simulated feed settings. -/
structure FeedConfig where
  /-- Mid price of the first tick. -/
  startPrice : Decimal
  /-- Distance between the buy and the sell quote. -/
  spread : Decimal
  /-- Largest move of the mid price per tick. -/
  maxStep : Decimal
  /-- Tick period in milliseconds. -/
  intervalMs : Nat
deriving DecidableEq

/-- Database settings. -/
structure DatabaseConfig where
  /-- Connection address; the in-memory store is used when unset. -/
  url : Option String
  /-- Pool size. -/
  maxConnections : Nat
deriving DecidableEq

/-- The daemon configuration. -/
structure Config where
  /-- Engine settings. -/
  engine : EngineConfig
  /-- Simulated feed settings. -/
  feed : FeedConfig
  /-- Database settings. -/
  database : DatabaseConfig
  /-- The environment. -/
  environment : Environment
deriving DecidableEq

namespace EngineConfig

/-- Engine defaults: a pass every three seconds. -/
def default : EngineConfig where
  reconcileIntervalMs := 3000
  hubCapacity := 64
  workerCapacity := 16
  dealPolicy := .oneLegPerTick
  resubscribeStalledFeeds := true
  broadcastCapacity := 256

end EngineConfig

namespace FeedConfig

/-- Feed defaults: mid 100, spread 0.5, step 1, a tick every 500 ms. -/
def default : FeedConfig where
  startPrice := .ofNat64 100 (by decide)
  spread := Decimal.oneHalf
  maxStep := .ofNat64 1 (by decide)
  intervalMs := 500

end FeedConfig

namespace Config

/-- The default configuration. -/
def default : Config where
  engine := EngineConfig.default
  feed := FeedConfig.default
  database := ⟨none, 5⟩
  environment := .development

/-- The test configuration: fast passes, small queues, fast ticks. -/
def test : Config where
  engine := { EngineConfig.default with
    reconcileIntervalMs := 50, hubCapacity := 16, workerCapacity := 8 }
  feed := { FeedConfig.default with intervalMs := 10 }
  database := ⟨none, 0⟩
  environment := .test

end Config

end RobotTrading
