import RobotTrading.Config.Basic
import RobotTrading.Decimal.Text
import RobotTrading.Text.Basic
import RobotTrading.Text.Case

/-!
# Loading the configuration

`Config.load` reads the configuration from a variable lookup. Each setting has
a variable (named with the `ROBOTRADE_` prefix, except `DATABASE_URL`) and a
default used when the variable is unset. The checks run in a fixed order and the
first failure is the answer:

1. the environment, lower-cased but not trimmed;
2. the reconcile interval in seconds, then that it is positive;
3. the same-tick round trip flag;
4. to 7. the hub and worker capacities, the resubscribe flag, the broadcast
   capacity, each capacity positive;
8. to 11. the feed's start price, spread, step and interval;
12. the start price positive, the spread and step not negative;
13. the feed interval positive;
14. the pool size.

Numbers are unsigned decimal integers, an optional plus sign allowed, after
trimming blanks. Flags are `1`, `true`, `yes`, `on` or `0`, `false`, `no`, `off`
after trimming and lower-casing. A blank database address means unset; any
other is kept as given.

## Main definitions

* `ConfigError` and its text.
* `Config.readUnsigned` : an unsigned integer of a bounded width.
* `Config.setting` : one setting; `Config.unsigned`, `Config.decimal`, `Config.flag` are its kinds.
* `Config.load` : the configuration of a lookup.
* `Config.variables` : the variables it reads.
-/

namespace RobotTrading

-- Powers of naturals and integers are the core ones (`Nat.pow`, `Int.pow`), also where a
-- larger library brings its own.
attribute [local instance (high)] instPowNat

/-- Why a configuration was refused. -/
inductive ConfigError where
  /-- The environment is not one of the known names; the lower-cased value is kept. -/
  | unknownEnvironment (lowered : String)
  /-- A variable's value does not read; the value as shown is kept. -/
  | badValue (key shown : String)
  /-- A setting that must be positive is zero. -/
  | notPositive (key : String)
  /-- The feed's start price is not positive, or its spread or step is negative. -/
  | feedOutOfRange
deriving DecidableEq

namespace ConfigError

/-- The text of a configuration error. -/
def message : ConfigError → String
  | unknownEnvironment v => "Invalid ROBOTRADE_ENV: " ++ v ++ ". Expected: test, development, production"
  | badValue k v => "Invalid " ++ k ++ " value: " ++ v
  | notPositive k => "Invalid " ++ k ++ ": must be > 0"
  | feedOutOfRange =>
    "Invalid ROBOTRADE_FEED_*: start price must be positive, spread and step non-negative"

end ConfigError

namespace Config

/-- A variable lookup. -/
abbrev Lookup := String → Option String

/-- An unsigned integer below `2 ^ bits`: decimal digits with an optional leading plus. -/
def readUnsigned (bits : Nat) (s : String) : Option Nat :=
  let body := match s.toList with
    | '+' :: rest => rest
    | cs => cs
  if body.isEmpty then none
  else
    body.foldl (fun acc c => acc.bind fun n =>
      if c.isDigit then
        let v := n * 10 + (c.toNat - '0'.toNat)
        if v < 2 ^ bits then some v else none
      else none) (some 0)

/-- The environment of a lookup, `development` when unset. -/
def loadEnvironment (vars : Lookup) : Except ConfigError Environment :=
  let v := Text.lower ((vars "ROBOTRADE_ENV").getD "development")
  if v = "test" then .ok .test
  else if v = "development" ∨ v = "dev" then .ok .development
  else if v = "production" ∨ v = "prod" then .ok .production
  else .error (.unknownEnvironment v)

/-- A setting read from its variable: the default when the variable is unset, else the value
    its text reads as, or a refusal that shows the text as `shown` gives it. -/
def setting {α : Type} (read : String → Option α) (shown : String → String) (vars : Lookup)
    (key : String) (default : α) : Except ConfigError α :=
  match vars key with
  | none => .ok default
  | some v => match read v with
    | some a => .ok a
    | none => .error (.badValue key (shown v))

/-- The flag a word names: `1`, `true`, `yes`, `on` or `0`, `false`, `no`, `off`. -/
def flagWord? (w : String) : Option Bool :=
  if w = "1" ∨ w = "true" ∨ w = "yes" ∨ w = "on" then some true
  else if w = "0" ∨ w = "false" ∨ w = "no" ∨ w = "off" then some false
  else none

/-- An unsigned setting of a bounded width, read from the trimmed text. -/
def unsigned (vars : Lookup) (bits : Nat) (key : String) (default : Nat) :
    Except ConfigError Nat :=
  setting (fun v => readUnsigned bits (Text.trimBlank v)) id vars key default

/-- A positive capacity, the default when unset. -/
def capacity (vars : Lookup) (key : String) (default : Nat) : Except ConfigError Nat := do
  let n ← unsigned vars 64 key default
  if n = 0 then throw (.notPositive key)
  pure n

/-- A decimal setting, read from the trimmed text. -/
def decimal (vars : Lookup) (key : String) (default : Decimal) : Except ConfigError Decimal :=
  setting (fun v => Decimal.ofText? (Text.trimBlank v)) id vars key default

/-- A flag setting, read from the trimmed, lower-cased text, which a refusal shows. -/
def flag (vars : Lookup) (key : String) (default : Bool) : Except ConfigError Bool :=
  setting (fun v => flagWord? (Text.lower (Text.trimBlank v))) (fun v => Text.lower (Text.trimBlank v))
    vars key default

/-- The engine settings of a lookup. -/
def loadEngine (vars : Lookup) : Except ConfigError EngineConfig := do
  let d := EngineConfig.default
  let secs ← unsigned vars 64 "ROBOTRADE_RECONCILE_INTERVAL_SECS" 3
  if secs = 0 then throw (.notPositive "ROBOTRADE_RECONCILE_INTERVAL_SECS")
  let sameTick ← flag vars "ROBOTRADE_SAME_TICK_ROUND_TRIP" false
  let hub ← capacity vars "ROBOTRADE_HUB_CAPACITY" d.hubCapacity
  let worker ← capacity vars "ROBOTRADE_WORKER_CAPACITY" d.workerCapacity
  let resubscribe ← flag vars "ROBOTRADE_RESUBSCRIBE_STALLED_FEEDS" true
  let broadcast ← capacity vars "ROBOTRADE_BROADCAST_CAPACITY" d.broadcastCapacity
  pure {
    reconcileIntervalMs := secs * 1000
    hubCapacity := hub
    workerCapacity := worker
    dealPolicy := if sameTick then .sameTickRoundTrip else .oneLegPerTick
    resubscribeStalledFeeds := resubscribe
    broadcastCapacity := broadcast }

/-- The feed settings of a lookup. -/
def loadFeed (vars : Lookup) : Except ConfigError FeedConfig := do
  let d := FeedConfig.default
  let start ← decimal vars "ROBOTRADE_FEED_START_PRICE" d.startPrice
  let spread ← decimal vars "ROBOTRADE_FEED_SPREAD" d.spread
  let step ← decimal vars "ROBOTRADE_FEED_MAX_STEP" d.maxStep
  let interval ← unsigned vars 64 "ROBOTRADE_FEED_INTERVAL_MS" 500
  if !start.isPos || spread.isNeg || step.isNeg then throw .feedOutOfRange
  if interval = 0 then throw (.notPositive "ROBOTRADE_FEED_INTERVAL_MS")
  pure ⟨start, spread, step, interval⟩

/-- The database settings of a lookup. -/
def loadDatabase (vars : Lookup) : Except ConfigError DatabaseConfig := do
  let url := (vars "DATABASE_URL").filter fun u => !(Text.trimBlank u).isEmpty
  let pool ← unsigned vars 32 "ROBOTRADE_DB_MAX_CONNECTIONS" 5
  pure ⟨url, pool⟩

/-- Every variable the configuration reads. -/
def «variables» : List String :=
  ["ROBOTRADE_ENV", "ROBOTRADE_RECONCILE_INTERVAL_SECS", "ROBOTRADE_SAME_TICK_ROUND_TRIP",
    "ROBOTRADE_HUB_CAPACITY", "ROBOTRADE_WORKER_CAPACITY", "ROBOTRADE_RESUBSCRIBE_STALLED_FEEDS",
    "ROBOTRADE_BROADCAST_CAPACITY", "ROBOTRADE_FEED_START_PRICE", "ROBOTRADE_FEED_SPREAD",
    "ROBOTRADE_FEED_MAX_STEP", "ROBOTRADE_FEED_INTERVAL_MS", "ROBOTRADE_DB_MAX_CONNECTIONS",
    "DATABASE_URL"]

/-- The lookup of a list of set variables; the first entry of a name wins. -/
def lookupIn (set : List (String × String)) : Lookup := fun key => set.lookup key

/-- The configuration of a lookup: environment, engine, feed, then database. -/
def load (vars : Lookup) : Except ConfigError Config := do
  let environment ← loadEnvironment vars
  let engine ← loadEngine vars
  let feed ← loadFeed vars
  let database ← loadDatabase vars
  pure ⟨engine, feed, database, environment⟩

end Config

end RobotTrading
