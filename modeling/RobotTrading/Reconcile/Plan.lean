import RobotTrading.Membership

/-!
# Reconcile plans

The robots to trade are grouped by their ticker in ascending symbol order. A
robot without a ticker is skipped and does not count as an occurrence of its
identifier; among the robots with a ticker each identifier is kept at its first
occurrence. Each group keeps its robots in list order.

A pass compares the grouped active robots with the symbols it knew before: a
symbol with no worker yet is registered with its robots, a known symbol with no
robot left is unregistered, and a symbol in both gets its fresh robot list
broadcast. Each list is in ascending symbol order.

## Main definitions

* `SymbolGroups` : symbols with their robots, ascending by symbol.
* `SymbolGroups.ofRobots` : the grouping of a robot list.
* `ReconcilePlan`, `ReconcilePlan.ofGroups`.
* `ReconcilePlan.nextKnown`, `ReconcilePlan.changesWorkers`.
-/

namespace RobotTrading

/-- Robots grouped by symbol, ascending by symbol, no group empty. -/
abbrev SymbolGroups := List (Symbol × List Robot)

namespace SymbolGroups

/-- Add a robot to the group of a symbol, creating the group in symbol order. -/
def add (s : Symbol) (r : Robot) : SymbolGroups → SymbolGroups
  | [] => [(s, [r])]
  | (t, rs) :: rest =>
    if s < t then (s, [r]) :: (t, rs) :: rest
    else if t < s then (t, rs) :: add s r rest
    else (t, rs ++ [r]) :: rest

/-- The groups of a robot list. -/
def ofRobots (robots : List Robot) : SymbolGroups :=
  (robots.foldl (fun (acc : List Int × SymbolGroups) r =>
    match r.ticker with
    | none => acc
    | some s => if acc.1.contains r.robotId then acc else (r.robotId :: acc.1, add s r acc.2))
    ([], [])).2

/-- The symbols of the groups, ascending. -/
def symbols (g : SymbolGroups) : List Symbol := g.map (·.1)

/-- The robots of a symbol's group. -/
def find? (g : SymbolGroups) (s : Symbol) : Option (List Robot) := g.lookup s

end SymbolGroups

/-- The commands of one reconcile pass. -/
structure ReconcilePlan where
  /-- New symbols with their robots. -/
  register : SymbolGroups
  /-- Known symbols with no robot left. -/
  unregister : List Symbol
  /-- Known symbols that stay, with their fresh robots. -/
  broadcast : SymbolGroups

namespace ReconcilePlan

/-- The plan of a pass that knew the ascending symbols `known`. -/
def ofGroups (known : List Symbol) (groups : SymbolGroups) : ReconcilePlan where
  register := groups.filter fun g => !known.contains g.1
  unregister := known.filter fun s => !(groups.symbols.contains s)
  broadcast := groups.filter fun g => known.contains g.1

/-- The symbols known once the plan has run, ascending. -/
def nextKnown (p : ReconcilePlan) : List Symbol :=
  Ascending.ofList (p.register.map (·.1) ++ p.broadcast.map (·.1))

/-- The plan creates or removes a worker. -/
def changesWorkers (p : ReconcilePlan) : Bool := !p.register.isEmpty || !p.unregister.isEmpty

end ReconcilePlan

end RobotTrading
