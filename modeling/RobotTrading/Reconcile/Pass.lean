import RobotTrading.Config.Load
import RobotTrading.Store.Memory
import RobotTrading.Reconcile.Plan

/-!
# Reconcile passes

A pass reads the robots eligible now, groups them by symbol and plans against
the symbols known from earlier passes. It sends, in this order, a register
command for every new symbol, an unregister command for every symbol left
without robots, and a broadcast of the fresh robot list for every symbol that
stays, each kind in ascending symbol order.

The known symbols follow the commands one by one: a register adds its symbol
and an unregister removes it as soon as the command is sent, so a pass cut short
leaves the known symbols matching exactly what was sent. A failed read of the
eligible robots sends nothing, and a hub found closed ends the pass at the
command it refused.

A pass, and the running daemon around it, fails in one of a few ways: a store
error, a hub or worker that is no longer running, a worker whose command queue
is full, and a refused configuration.

## Main definitions

* `DaemonError` and `DaemonError.message`.
* `HubCommand` : a command a pass sends.
* `ReconcilePlan.commands` : the commands of a plan, in sending order.
* `ReconcileSummary`, `ReconcilePlan.summary`.
* `HubCommand.updateKnown` : the known symbols after a sent command.
* `PassReport`, `reconcileOnce` : one pass against a read and a hub that may close.
-/

namespace RobotTrading

/-- Why a daemon operation failed. -/
inductive DaemonError where
  /-- The store failed. -/
  | store (e : StoreError)
  /-- The engine hub is no longer running. -/
  | hubClosed
  /-- The symbol's worker is no longer running. -/
  | workerClosed (s : Symbol)
  /-- The symbol's worker has a full command queue. -/
  | workerBusy (s : Symbol)
  /-- The configuration was refused. -/
  | config (e : ConfigError)
deriving DecidableEq

namespace DaemonError

/-- The text of a daemon error. -/
def message : DaemonError → String
  | store e => "Store error: " ++ e.message
  | hubClosed => "Engine hub is closed"
  | workerClosed s => "Symbol worker closed: " ++ s.text
  | workerBusy s => "Symbol worker busy: " ++ s.text
  | config e => "Configuration error: " ++ e.message

end DaemonError

/-- A command a reconcile pass sends to the hub. -/
inductive HubCommand where
  /-- Start a worker for the symbol with its robots. -/
  | register (s : Symbol) (robots : List Robot)
  /-- Stop the symbol's worker. -/
  | unregister (s : Symbol)
  /-- Give the symbol's worker its fresh robot list. -/
  | broadcast (s : Symbol) (robots : List Robot)
deriving DecidableEq

/-- The counts of one pass. -/
structure ReconcileSummary where
  /-- Eligible robots read. -/
  robots : Nat
  /-- Register commands sent. -/
  registered : Nat
  /-- Unregister commands sent. -/
  unregistered : Nat
  /-- Broadcast commands sent. -/
  broadcast : Nat
deriving DecidableEq

namespace ReconcilePlan

/-- The commands of a plan in sending order. -/
def commands (p : ReconcilePlan) : List HubCommand :=
  p.register.map (fun g => .register g.1 g.2) ++ p.unregister.map .unregister ++
    p.broadcast.map (fun g => .broadcast g.1 g.2)

/-- The counts of a completed pass over `n` robots. -/
def summary (p : ReconcilePlan) (n : Nat) : ReconcileSummary :=
  ⟨n, p.register.length, p.unregister.length, p.broadcast.length⟩

end ReconcilePlan

namespace HubCommand

/-- The known symbols once the command is sent. -/
def updateKnown (known : List Symbol) : HubCommand → List Symbol
  | register s _ => Ascending.insert s known
  | unregister s => known.filter (· != s)
  | broadcast _ _ => known

end HubCommand

/-- The plan of a pass from the known symbols and the eligible robots. -/
def ReconcilePlan.ofRobots (known : List Symbol) (robots : List Robot) : ReconcilePlan :=
  ReconcilePlan.ofGroups known (SymbolGroups.ofRobots robots)

/-- What one pass did. -/
structure PassReport where
  /-- The commands the hub took, in sending order. -/
  sent : List HubCommand
  /-- The known symbols once the pass is over. -/
  known : List Symbol
  /-- The counts of a completed pass, or the error that ended it. -/
  result : Except DaemonError ReconcileSummary

/-- One pass from the known symbols `known`, given what the read of the eligible robots returned
    and how many commands the hub takes before it is found closed (`none`: it stays open). A
    closed hub stays closed, so the hub takes a prefix of the commands. -/
def reconcileOnce (known : List Symbol) (read : Except StoreError (List Robot))
    (hubTakes : Option Nat) : PassReport :=
  match read with
  | .error e => ⟨[], known, .error (.store e)⟩
  | .ok robots =>
    let p := ReconcilePlan.ofRobots known robots
    let sent := p.commands.take (hubTakes.getD p.commands.length)
    let known' := sent.foldl HubCommand.updateKnown known
    if sent.length < p.commands.length then ⟨sent, known', .error .hubClosed⟩
    else ⟨sent, known', .ok (p.summary robots.length)⟩

end RobotTrading
