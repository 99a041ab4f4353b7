import RobotTrading.Service.Viewers
import RobotTrading.Trading.Client

/-!
# Trading client requests

One trading client runs against a store and an update ring with one viewer.
Every step reports the client's state and robot, the store's record of the
robot the client started with, in short form, the successful trade writes, and the updates published
during the step.

## Main definitions

* `Service.ClientBench.tick`, `Service.ClientBench.call` : a call on the client and what it
  does to the store and the updates.
* `Service.quoteTick` : a tick from a step's quotes.
* `Service.client` : the trading client request.
-/

namespace RobotTrading

namespace Service

open Request

/-- The world of a client request. -/
structure ClientBench where
  /-- The client. -/
  client : Client
  /-- The store. -/
  store : Store
  /-- The update ring, with viewer 0 reading it. -/
  ring : UpdateRing

/-- Everything the viewer can read now. -/
def drainViewer (r : UpdateRing) (v : Nat) (fuel : Nat) : UpdateRing × List Received :=
  match fuel with
  | 0 => (r, [])
  | fuel + 1 =>
    match r.receive v with
    | (r', .empty) | (r', .closed) => (r', [])
    | (r', x) =>
      let (r'', xs) := drainViewer r' v fuel
      (r'', x :: xs)

/-- A tick from a step's symbol and quotes, the symbol defaulting to `fallback` when the
    step has no text for it. -/
def quoteTick (step : Json) (fallback : Symbol) : Reading PriceTick := do
  let s ← match lenient step "symbol" (asString "symbol") with
    | some raw => ofDomain (Symbol.ofText raw)
    | none => pure fallback
  let buy ← decimal step "buy"
  let sell ← decimal step "sell"
  ofDomain (PriceTick.ofQuotes s buy sell)

/-- Carry out a settlement: write the trade, swallowing a failure, then publish. -/
def settleOn (store : Store) (ring : UpdateRing) : Settlement → Store × UpdateRing × Option Fault
  | .none => (store, ring, none)
  | .overflow o => (store, ring, some (Overflow.fault o))
  | .write r => ((store.saveTrade r).1, ring.publish r, none)

/-- A call made on a client's bench. -/
inductive ClientCall where
  /-- Hand the client a tick. -/
  | tick (t : PriceTick)
  /-- Hand the client a fresh record of its robot. -/
  | replace (r : Robot)
  /-- Make the store's next `n` trade writes fail. -/
  | failTrades (n : Nat)

namespace ClientBench

/-- A tick handed to the client: its outcome, and the failure raised when recording a deal
    overflows. A completed deal is written, a failed write swallowed, and then published. -/
def tick (b : ClientBench) (t : PriceTick) : ClientBench × TickOutcome × Option Fault :=
  let (c, o, s) := b.client.onTick t
  let (store, ring, fault) := settleOn b.store b.ring s
  (⟨c, store, ring⟩, o, fault)

/-- Carry out a call: the bench after it, the outcome of a tick, and the failure raised. -/
def call (b : ClientBench) : ClientCall → ClientBench × Option TickOutcome × Option Fault
  | .tick t =>
    let (b', o, f) := b.tick t
    (b', some o, f)
  | .replace r => ({ b with client := b.client.replaceRobot r }, none, none)
  | .failTrades n => ({ b with store := b.store.failNextTrades n }, none, none)

end ClientBench

/-- The call a client operation asks for; a tick's symbol defaults to the robot's ticker. -/
def clientCall (b : ClientBench) (op : String) (step : Json) : Reading ClientCall :=
  match op with
  | "tick" => ClientCall.tick <$> quoteTick step (b.client.robot.ticker.getD ⟨"X"⟩)
  | "replace" => ClientCall.replace <$> Request.robot step "robot"
  | "fail_next_trades" => ClientCall.failTrades <$> withDefault step "count" (asNat "count") 0
  | other => throw (Fault.badInput ("unknown client op " ++ other))

/-- One client operation. -/
def clientOp (b : ClientBench) (op : String) (step : Json) :
    ClientBench × Except Fault (List (String × Json)) :=
  match clientCall b op step with
  | .error f => (b, .error f)
  | .ok c =>
    match b.call c with
    | (b', _, some f) => (b', .error f)
    | (b', some o, none) => (b', .ok [("outcome", o.toJson)])
    | (b', none, none) => (b', .ok [])

/-- One step of a client request; `watched` is the identifier whose stored record is shown. -/
def clientStep (watched : Int) (b : ClientBench) (step : Json) : ClientBench × Json :=
  let (b', fields) := match string step "op" with
    | .error f => (b, faultFields f)
    | .ok op =>
      let (b', res) := clientOp b op step
      (b', stepFields res)
  let (ring, received) := drainViewer b'.ring 0 (b'.ring.capacity + 1)
  let updates := received.filterMap fun x => match x with
    | .update r => some (Json.obj [("update", r.toJson)])
    | _ => none
  let c := b'.client
  (⟨c, b'.store, ring⟩, .obj (fields ++ [("state", c.machine.state.toJson),
    ("robot", c.robot.toJson), ("robot_id", .int c.robotId),
    ("stored", Field.ofOption Robot.compact (b'.store.get? watched)),
    ("trade_writes", .int b'.store.tradeWrites), ("updates", .arr updates)]))

/-- A trading client run over a list of operations. -/
def client (req : Json) : Answer := do
  let r ← Request.robot req "robot"
  let stored ← withDefault req "store" (fun v => do
    let items ← asList "store" v
    items.mapM asRobot) [r]
  let policy ← policyField req
  let ops ← list req "ops"
  let (ring, _) := (UpdateRing.new 256).subscribe
  let (_, steps) := ops.foldl (fun (acc : ClientBench × List Json) step =>
    let (b', a) := clientStep r.robotId acc.1 step
    (b', acc.2 ++ [a])) (⟨Client.new r policy, Store.ofRobots stored, ring⟩, [])
  pure (.obj [("steps", .arr steps)])

end Service

end RobotTrading
