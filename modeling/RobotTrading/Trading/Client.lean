import RobotTrading.Deal.Machine

/-!
# Trading clients

A trading client is one robot's record together with its deal machine. On each
tick it runs the machine against the robot's thresholds; a robot without
thresholds ignores every tick. When a tick completes a deal, the profit is
recorded on the robot, and the updated robot is to be written back (its trading
results) and then published. A profit that overflows the yield writes nothing;
the machine has moved on all the same.

A fresh record of the robot replaces the held one but keeps the decision state,
and keeps the held results when the fresh record is behind them: both deal
counts set and the held one greater.

## Main definitions

* `Client`, `Client.new`, `Client.onTick`, `Client.replaceRobot`.
* `Settlement` : what a tick leaves to be written.
-/

namespace RobotTrading

/-- A robot's record and its deal machine. -/
structure Client where
  /-- The robot, with its in-memory trading results. -/
  robot : Robot
  /-- The decision state. -/
  machine : DealMachine
deriving DecidableEq

/-- What a tick leaves to be done beside the client. -/
inductive Settlement where
  /-- Nothing. -/
  | none
  /-- Write back the robot's trading results, then publish the robot. -/
  | write (r : Robot)
  /-- Recording the deal overflowed; nothing is written. -/
  | overflow (o : Overflow)
deriving DecidableEq

namespace Client

/-- A client that starts buying. -/
def new (r : Robot) (policy : DealPolicy) : Client := ⟨r, DealMachine.new policy⟩

/-- The robot's identifier. -/
def robotId (c : Client) : Int := c.robot.robotId

/-- Record a completed deal on the robot. -/
def settle (c : Client) (d : CompletedDeal) : Client × Settlement :=
  match d.profit? with
  | none => (c, .overflow .subtraction)
  | some p =>
    match c.robot.recordDeal p with
    | .ok r => ({ c with robot := r }, .write r)
    | .error .yieldOverflow => (c, .overflow .addition)
    | .error (.notTradable _) => (c, .none)

/-- One tick: the machine runs against the robot's thresholds, if it has them. -/
def onTick (c : Client) (t : PriceTick) : Client × TickOutcome × Settlement :=
  match c.robot.thresholds with
  | none => (c, .idle, .none)
  | some th =>
    let (m, o) := c.machine.onTick th t.buy t.sell
    let c := { c with machine := m }
    match o with
    | .completed d =>
      let (c, s) := c.settle d
      (c, o, s)
    | _ => (c, o, .none)

/-- The held results are ahead of a fresh record: both deal counts set, the held greater. -/
def keepsResults (held fresh : Robot) : Bool :=
  match held.dealsCount, fresh.dealsCount with
  | some mine, some theirs => decide (theirs < mine)
  | _, _ => false

/-- Replace the robot by a fresh record, keeping the decision state and results that are
    ahead of the record. -/
def replaceRobot (c : Client) (fresh : Robot) : Client :=
  if keepsResults c.robot fresh then
    { c with robot := { fresh with factYield := c.robot.factYield, dealsCount := c.robot.dealsCount } }
  else { c with robot := fresh }

end Client

end RobotTrading
