import RobotTrading.Feed.Scripted
import RobotTrading.Membership
import RobotTrading.Reconcile.Pass
import RobotTrading.Concurrency.Lock
import RobotTrading.Concurrency.Reply
import RobotTrading.Concurrency.Timer
import RobotTrading.Concurrency.Token
import RobotTrading.Store.Memory
import RobotTrading.Trading.Client
import RobotTrading.Updates.Ring

/-!
# The engine world

The trading engine runs as cooperating tasks on one thread: the hub that owns
the symbol workers, a worker and a price reader per symbol, the reconciler,
and short helper tasks. Task 0 is the session that drives them from outside.
A world holds all of it: the tasks and where each one stands, the workers'
shared state, the queues, reply slots, tokens and timers between them, the
store, the scripted feed and the update ring, a run queue of woken tasks, and
the virtual clock.

Tasks run only when woken. Waking a task that waits puts it at the end of the
run queue, unless it is already there; waking the session marks it woken. A
task that has used up its `runBudget` in one run is deferred: it lets the
others run and is woken again once the current batch is over.

## Main definitions

* `WorkerCommand`, `HubRequest`, `ReplyValue`.
* `WorkerPhase`, `ReaderPhase`, `HubPhase`, `ReconcilerPhase`, `Job`, `Task`.
* `Worker`, `Hub`, `TradingSettings`, `World`.
* `World.wake`, `World.spawn`, `World.finish` and the helpers every task uses.
-/

namespace RobotTrading

/-- A command to a symbol worker: a fresh robot list, and the reply slot for the membership
    change once it took effect. -/
structure WorkerCommand where
  /-- The fresh robot list. -/
  robots : List Robot
  /-- Where to answer, if anywhere. -/
  ack : Option Nat

/-- A request to the engine hub. -/
inductive HubRequest where
  /-- Register, unregister or broadcast. -/
  | command (c : HubCommand)
  /-- Answer the registered symbols. -/
  | symbols (reply : Nat)
  /-- Answer the robots attached to a symbol's worker. -/
  | robotIds (s : Symbol) (reply : Nat)

/-- An answer carried by a reply slot. -/
inductive ReplyValue where
  /-- Registered symbols, ascending. -/
  | symbols (ss : List Symbol)
  /-- Attached robot identifiers, or `none` when the symbol has no worker. -/
  | robotIds (ids : Option (List Int))
  /-- The membership change of a robot list. -/
  | delta (d : MembershipDelta)

/-- Where a symbol worker's task stands. -/
inductive WorkerPhase where
  /-- Not run yet: it opens its first reader. -/
  | start
  /-- Waiting for a command or for cancellation. -/
  | idle
  /-- Waiting for the client lock to apply a command, or for cancellation. -/
  | applying (c : WorkerCommand)
  /-- Stopping: waiting for its reader to end, at most until the deadline. -/
  | stopping (deadline : Nat)
  /-- Stopping: waiting for the client lock to detach every client. -/
  | clearing

/-- Where a price reader stands. -/
inductive ReaderPhase where
  /-- Not run yet: it subscribes. -/
  | start
  /-- Waiting for the next item of its stream. -/
  | reading (stream : Nat)
  /-- Waiting for the client lock to hand a tick to every client. -/
  | fanning (stream : Nat) (tick : PriceTick)
  /-- Inside a trade write that never returns, holding the client lock. -/
  | hung (stream : Nat)

/-- Where the hub stands. -/
inductive HubPhase where
  /-- Waiting for a request or for cancellation. -/
  | serving
  /-- Stopping its workers one by one, waiting for each to end. -/
  | stopping (workers : List Nat)

/-- Where the reconciler stands. -/
inductive ReconcilerPhase where
  /-- Not run yet: its interval starts now. -/
  | start
  /-- Asking the hub for its symbols. -/
  | seeding
  /-- Waiting for the hub's symbols in the reply slot. -/
  | awaitingSeed (reply : Nat)
  /-- Waiting for the next tick of its interval. -/
  | waiting
  /-- Sending the commands of a pass that are still unsent. -/
  | sending (cmds : List HubCommand)

/-- The reconciler's own state. -/
structure ReconcilerState where
  /-- Its token. -/
  token : Nat
  /-- The symbols it registered and did not unregister, ascending. -/
  known : List Symbol
  /-- The time of its next tick. -/
  nextTick : Nat
  /-- Where it stands. -/
  phase : ReconcilerPhase

/-- What a task runs. -/
inductive Job where
  /-- The engine hub. -/
  | hub (phase : HubPhase)
  /-- The control loop of worker `wid`. -/
  | worker (wid : Nat) (phase : WorkerPhase)
  /-- A price reader of worker `wid`, with its own token. -/
  | reader (wid : Nat) (token : Nat) (phase : ReaderPhase)
  /-- Stops worker `wid` and waits for it to end; `started` once it cancelled the worker. -/
  | stopper (wid : Nat) (started : Bool)
  /-- Answers the robots attached to worker `wid` once it gets the client lock. -/
  | robotIds (wid : Nat) (reply : Nat)
  /-- A reconciler. -/
  | reconciler (r : ReconcilerState)
  /-- The session that drives the world. -/
  | session

/-- A task. -/
structure Task where
  /-- What it runs and where it stands. -/
  job : Job
  /-- It has ended. -/
  done : Bool
  /-- The task woken when it ends. -/
  joinWaker : Option TaskId
  /-- It was aborted: it is dropped where it stands when next run. -/
  aborted : Bool

/-- The state of a symbol worker shared by its tasks and its handle. -/
structure Worker where
  /-- The symbol it trades. -/
  symbol : Symbol
  /-- Its trading clients, ascending by robot. -/
  clients : List Client
  /-- The lock over the clients. -/
  lock : Lock
  /-- A reader is subscribing to or reading the price stream. -/
  streaming : Bool
  /-- Its token. -/
  token : Nat
  /-- Its command queue. -/
  commands : Queue WorkerCommand
  /-- Its current reader. -/
  reader : Option TaskId
  /-- Its control task. -/
  task : TaskId

/-- The engine hub. -/
structure Hub where
  /-- Its request queue. -/
  requests : Queue HubRequest
  /-- The worker of each registered symbol, ascending by symbol. -/
  workers : List (Symbol × Nat)
  /-- Its token. -/
  token : Nat
  /-- Its task. -/
  task : TaskId

/-- What every worker is made with. -/
structure TradingSettings where
  /-- The deal policy of new clients. -/
  policy : DealPolicy
  /-- The bound of a worker's command queue (at least one). -/
  workerCapacity : Nat
  /-- Reopen a dead price stream on the next robot list. -/
  resubscribe : Bool

/-- Everything the engine's tasks share. -/
structure World where
  /-- Virtual time in milliseconds. -/
  clock : Nat
  /-- Woken tasks in the order they run. -/
  runQueue : List TaskId
  /-- The session was woken. -/
  sessionWoken : Bool
  /-- Nothing can run and no timer is armed while the session waits. -/
  stuck : Bool
  /-- Every task, named by its place; task 0 is the session. -/
  tasks : Array Task
  /-- Every worker, named by its place. -/
  workers : Array Worker
  /-- Every reply slot, named by its place. -/
  replies : Array (Reply ReplyValue)
  /-- The cancellation tokens. -/
  tokens : Tokens
  /-- The armed timers. -/
  timers : Timers
  /-- The engine hub, once spawned. -/
  hub : Option Hub
  /-- The price feed. -/
  feed : ScriptedFeed
  /-- The robot store. -/
  store : Store
  /-- Trade writes hang forever. -/
  stallTrades : Bool
  /-- Reads of the eligible robots fail. -/
  failReads : Bool
  /-- The update ring completed deals are published to. -/
  updates : UpdateRing
  /-- What workers are made with. -/
  settings : TradingSettings
  /-- The wall-clock time at which robots are checked for eligibility. -/
  wallClock : Instant
  /-- The reconcile interval in milliseconds. -/
  reconcileEvery : Nat
  /-- Units of work the running task may still do before it must let others run. -/
  budget : Nat
  /-- Tasks that ran out of budget, woken once the current batch is over. -/
  deferred : List TaskId

/-- The units of work a task may do in one run: each message taken or sent, lock taken,
    answer read or timer passed costs one. -/
def runBudget : Nat := 128

namespace World

/-- The session's own task entry. -/
def sessionTask : Task := ⟨.session, false, none, false⟩

/-- A world at time 0 with only the session. -/
def new (settings : TradingSettings) (store : Store) (feed : ScriptedFeed) (updates : UpdateRing)
    (wallClock : Instant) (reconcileEvery : Nat) : World :=
  ⟨0, [], false, false, #[sessionTask], #[], #[], Tokens.empty, [], none, feed, store, false, false,
    updates, settings, wallClock, reconcileEvery, runBudget, []⟩

/-- Task `t` has ended, or does not exist. -/
def isDone (w : World) (t : TaskId) : Bool := (w.tasks[t]?.map (·.done)).getD true

/-- Wake task `t`: the session is marked woken, a waiting task joins the end of the run queue. -/
def wake (w : World) (t : TaskId) : World :=
  if t = 0 then { w with sessionWoken := true }
  else if w.isDone t then w
  else if t ∈ w.runQueue then w
  else { w with runQueue := w.runQueue ++ [t] }

/-- Wake tasks in order. -/
def wakeAll (w : World) (ts : List TaskId) : World := ts.foldl wake w

/-- Spend one unit of the running task's budget. -/
def spend (w : World) : World := { w with budget := w.budget - 1 }

/-- Task `t` ran out of budget: it is woken again once the current batch is over. -/
def deferTask (w : World) (t : TaskId) : World :=
  if w.deferred.getLast? = some t then w else { w with deferred := w.deferred ++ [t] }

/-- Wake the tasks that ran out of budget, in the order they did. -/
def wakeDeferred (w : World) : World := ({ w with deferred := [] }).wakeAll w.deferred

/-- Start a task running `job`, queued at the end of the run queue. -/
def spawn (w : World) (job : Job) : World × TaskId :=
  let t := w.tasks.size
  ({ w with tasks := w.tasks.push ⟨job, false, none, false⟩, runQueue := w.runQueue ++ [t] }, t)

/-- Set where task `t` stands. -/
def setJob (w : World) (t : TaskId) (job : Job) : World :=
  { w with tasks := w.tasks.modify t fun k => { k with job := job } }

/-- End task `t`, waking the task waiting for it. -/
def finish (w : World) (t : TaskId) : World :=
  let waker := (w.tasks[t]?.bind (·.joinWaker))
  let w := { w with tasks := w.tasks.modify t fun k => { k with done := true, joinWaker := none } }
  match waker with
  | some j => w.wake j
  | none => w

/-- Task `j` waits for task `t` to end. -/
def joinOn (w : World) (t j : TaskId) : World :=
  { w with tasks := w.tasks.modify t fun k => { k with joinWaker := some j } }

/-- Abort task `t`: it is dropped where it stands when it next runs. -/
def abort (w : World) (t : TaskId) : World :=
  if w.isDone t then w
  else ({ w with tasks := w.tasks.modify t fun k => { k with aborted := true } }).wake t

/-- Arm task `t`'s timer. -/
def arm (w : World) (t : TaskId) (deadline : Nat) : World := { w with timers := w.timers.arm t deadline }

/-- Disarm task `t`'s timer. -/
def disarm (w : World) (t : TaskId) : World := { w with timers := w.timers.disarm t }

/-- Make a token. -/
def newToken (w : World) (parent : Option Nat) : World × Nat :=
  let (ts, i) := w.tokens.create parent
  ({ w with tokens := ts }, i)

/-- Token `i` is cancelled. -/
def cancelled (w : World) (i : Nat) : Bool := w.tokens.isCancelled i

/-- Task `t` watches token `i`. -/
def watch (w : World) (i : Nat) (t : TaskId) : World := { w with tokens := w.tokens.watch i t }

/-- Task `t` stops watching token `i`. -/
def unwatch (w : World) (i : Nat) (t : TaskId) : World := { w with tokens := w.tokens.unwatch i t }

/-- Cancel token `i` and the tokens under it, waking their watchers. -/
def cancel (w : World) (i : Nat) : World :=
  let (ts, woken) := w.tokens.cancel i
  ({ w with tokens := ts }).wakeAll woken

/-- Make an empty reply slot. -/
def newReply (w : World) : World × Nat := ({ w with replies := w.replies.push Reply.new }, w.replies.size)

/-- Answer through reply slot `r`. -/
def answer (w : World) (r : Nat) (v : ReplyValue) : World :=
  match w.replies[r]? with
  | some slot =>
    let (slot', ws) := slot.send v
    ({ w with replies := w.replies.modify r fun _ => slot' }).wakeAll ws
  | none => w

/-- Drop the sender of reply slot `r` without answering. -/
def dropAnswer (w : World) (r : Nat) : World :=
  match w.replies[r]? with
  | some slot =>
    let (slot', ws) := slot.dropSender
    ({ w with replies := w.replies.modify r fun _ => slot' }).wakeAll ws
  | none => w

/-- Look, as task `t`, for the answer in reply slot `r`. -/
def pollReply (w : World) (r : Nat) (t : TaskId) : World × Reply.Answer ReplyValue :=
  match w.replies[r]? with
  | some slot =>
    let (slot', a) := slot.poll t
    ({ w with replies := w.replies.modify r fun _ => slot' }, a)
  | none => (w, .dropped)

/-- Stop waiting for the answer in reply slot `r`. -/
def leaveReply (w : World) (r : Nat) : World :=
  { w with replies := w.replies.modify r Reply.dropReceiver }

/-- The worker named `wid`. -/
def worker? (w : World) (wid : Nat) : Option Worker := w.workers[wid]?

/-- Change the worker named `wid`. -/
def modifyWorker (w : World) (wid : Nat) (f : Worker → Worker) : World :=
  { w with workers := w.workers.modify wid f }

/-- Task `t` asks for worker `wid`'s client lock. -/
def lockClients (w : World) (wid : Nat) (t : TaskId) : World × Bool :=
  match w.worker? wid with
  | some k =>
    let (l, got) := k.lock.acquire t
    (w.modifyWorker wid fun k => { k with lock := l }, got)
  | none => (w, false)

/-- Release worker `wid`'s client lock to the next in line. -/
def unlockClients (w : World) (wid : Nat) : World :=
  match w.worker? wid with
  | some k =>
    let (l, ws) := k.lock.release
    (w.modifyWorker wid fun k => { k with lock := l }).wakeAll ws
  | none => w

/-- Task `t` gives up worker `wid`'s client lock, held or waited for. -/
def leaveClients (w : World) (wid : Nat) (t : TaskId) : World :=
  match w.worker? wid with
  | some k =>
    let (l, ws) := k.lock.abandon t
    (w.modifyWorker wid fun k => { k with lock := l }).wakeAll ws
  | none => w

/-- Drop reply slots whose sender goes away with a dropped command. -/
def dropCommands (w : World) (cmds : List WorkerCommand) : World :=
  cmds.foldl (fun w c => match c.ack with
    | some r => w.dropAnswer r
    | none => w) w

/-- Ask, as task `t`, for a slot in worker `wid`'s command queue. -/
def reserveCommand (w : World) (wid : Nat) (t : TaskId) : World × Queue.Reservation :=
  match w.worker? wid with
  | some k =>
    let (q, r) := k.commands.reserve t
    (w.modifyWorker wid fun k => { k with commands := q }, r)
  | none => (w, .closed)

/-- Put a command into worker `wid`'s queue, its slot taken; a command put into a queue whose
    receiver is gone is dropped. -/
def pushCommand (w : World) (wid : Nat) (c : WorkerCommand) : World :=
  match w.worker? wid with
  | some k =>
    if k.commands.receiverOpen then
      let (q, ws) := k.commands.push c
      (w.modifyWorker wid fun k => { k with commands := q }).wakeAll ws
    else w.dropCommands [c]
  | none => w.dropCommands [c]

/-- Task `t` no longer asks for a slot in worker `wid`'s queue. -/
def withdrawCommand (w : World) (wid : Nat) (t : TaskId) : World :=
  match w.worker? wid with
  | some k =>
    let (q, ws) := k.commands.withdraw t
    (w.modifyWorker wid fun k => { k with commands := q }).wakeAll ws
  | none => w

/-- Send a command to worker `wid` without waiting. -/
def tryCommand (w : World) (wid : Nat) (c : WorkerCommand) : Except Queue.Refusal World :=
  match w.worker? wid with
  | some k =>
    match k.commands.trySend c with
    | .ok (q, ws) => .ok ((w.modifyWorker wid fun k => { k with commands := q }).wakeAll ws)
    | .error e => .error e
  | none => .error .closed

/-- Drop the handle of worker `wid`: its command queue loses its sender. -/
def dropHandle (w : World) (wid : Nat) : World :=
  match w.worker? wid with
  | some k =>
    let (q, ws) := k.commands.closeSender
    (w.modifyWorker wid fun k => { k with commands := q }).wakeAll ws
  | none => w

/-- Change the hub. -/
def modifyHub (w : World) (f : Hub → Hub) : World := { w with hub := w.hub.map f }

/-- Ask, as task `t`, for a slot in the hub's request queue. -/
def reserveRequest (w : World) (t : TaskId) : World × Queue.Reservation :=
  match w.hub with
  | some h =>
    let (q, r) := h.requests.reserve t
    (w.modifyHub fun h => { h with requests := q }, r)
  | none => (w, .closed)

/-- Drop a hub request: its reply slot loses its sender. -/
def dropRequest (w : World) (req : HubRequest) : World :=
  match req with
  | .symbols r => w.dropAnswer r
  | .robotIds _ r => w.dropAnswer r
  | .command _ => w

/-- Put a request into the hub's queue, its slot taken. -/
def pushRequest (w : World) (req : HubRequest) : World :=
  match w.hub with
  | some h =>
    if h.requests.receiverOpen then
      let (q, ws) := h.requests.push req
      (w.modifyHub fun h => { h with requests := q }).wakeAll ws
    else w.dropRequest req
  | none => w.dropRequest req

/-- Task `t` no longer asks for a slot in the hub's queue. -/
def withdrawRequest (w : World) (t : TaskId) : World :=
  match w.hub with
  | some h =>
    let (q, ws) := h.requests.withdraw t
    (w.modifyHub fun h => { h with requests := q }).wakeAll ws
  | none => w

/-- The hub has ended: its request queue has no receiver. -/
def hubClosed (h : Hub) : Bool := !h.requests.receiverOpen

/-- Change stream `i` of the feed. -/
def modifyStream (w : World) (i : Nat) (f : Queue FeedItem → Queue FeedItem) : World :=
  { w with feed := w.feed.modifyStream i f }

/-- The reader drops stream `i`: senders waiting on it are woken and its items dropped. -/
def dropStream (w : World) (i : Nat) : World :=
  match w.feed.streams[i]? with
  | some q =>
    let (q', _, ws) := q.closeReceiver
    (w.modifyStream i fun _ => q').wakeAll ws
  | none => w

/-- Ask, as task `t`, for a slot in stream `i`. -/
def reserveStream (w : World) (i : Nat) (t : TaskId) : World × Queue.Reservation :=
  match w.feed.streams[i]? with
  | some q =>
    let (q', r) := q.reserve t
    (w.modifyStream i fun _ => q', r)
  | none => (w, .closed)

/-- Put an item into stream `i`, its slot taken. -/
def pushStream (w : World) (i : Nat) (x : FeedItem) : World :=
  match w.feed.streams[i]? with
  | some q =>
    if q.receiverOpen then
      let (q', ws) := q.push x
      (w.modifyStream i fun _ => q').wakeAll ws
    else w
  | none => w

/-- Publish a robot to the update ring. -/
def publish (w : World) (r : Robot) : World := { w with updates := w.updates.publish r }

end World

end RobotTrading
