import RobotTrading.Engine.World

/-!
# Symbol workers and price readers

A symbol worker owns the trading clients of one symbol and a price reader.
Both take the client lock: the reader for one pass of a tick over every
client, the worker's control task for one change of membership. A detached
client therefore never sees another tick, and a retained client keeps its
decision state.

The control task opens the first reader when it first runs, then takes
commands until it is cancelled or its handle is gone. A command is applied
under the lock; if the stream has died meanwhile and resubscription is on, a
new reader is opened; then the change is answered. A stopping worker cancels
its reader, waits for it at most `stopGrace` milliseconds, aborts it if it is
still running, and detaches every client under the lock.

The reader subscribes, then hands each tick to the clients in robot order.
A completed deal is written to the store and then published; a write that
hangs keeps the reader, and the lock, where they are. A deal whose profit
overflows the yield brings the reader down on the spot: the clients after it
miss the tick, the lock and the stream are let go, and the worker still counts
as streaming; so does a reader whose stream cannot be made at all. A reader that
ends any other way clears the streaming flag.

## Main definitions

* `attachClients` : bring a client list in line with a fresh robot list.
* `World.spawnWorker`, `World.cancelWorker`, `World.startReader`.
* `World.stepWorker`, `World.stepReader`, `World.stepStopper`, `World.stepRobotIds`.
* `World.dropTask` : drop an aborted task where it stands.
-/

namespace RobotTrading

/-- How long a stopping worker waits for its reader, in milliseconds. -/
def stopGrace : Nat := 5000

/-- Insert a client into a list ascending by robot, replacing one with the same robot. -/
def insertClient (c : Client) : List Client → List Client
  | [] => [c]
  | d :: rest =>
    if c.robotId < d.robotId then c :: d :: rest
    else if c.robotId = d.robotId then c :: rest
    else d :: insertClient c rest

/-- Bring a client list in line with a fresh robot list: drop clients whose robot is gone,
    give retained clients their fresh record, and attach a new client for each added robot. -/
def attachClients (policy : DealPolicy) (clients : List Client) (robots : List Robot) :
    List Client × MembershipDelta :=
  let d := MembershipDelta.partition (clients.map (·.robotId)) robots
  let kept := clients.filter fun c => !d.removed.contains c.robotId
  let refreshed := kept.map fun c => match d.retained.find? (·.robotId = c.robotId) with
    | some r => c.replaceRobot r
    | none => c
  (d.added.foldl (fun acc r => insertClient (Client.new r policy) acc) refreshed, d)

namespace World

/-- Start a worker for a symbol with its first robots, under token `parent`. Its control task
    is queued; it counts as streaming from the start. -/
def spawnWorker (w : World) (s : Symbol) (robots : List Robot) (parent : Nat) : World × Nat :=
  let (w, tok) := w.newToken (some parent)
  let (clients, _) := attachClients w.settings.policy [] robots
  let wid := w.workers.size
  let k : Worker := ⟨s, clients, Lock.free, true, tok, Queue.new w.settings.workerCapacity, none,
    w.tasks.size⟩
  let (w, _) := ({ w with workers := w.workers.push k }).spawn (.worker wid .start)
  (w, wid)

/-- Cancel worker `wid` and leave a task to wait for its end, holding its handle. -/
def cancelWorker (w : World) (wid : Nat) : World :=
  match w.worker? wid with
  | some k => ((w.cancel k.token).spawn (.stopper wid false)).1
  | none => w

/-- Open a reader for worker `wid` under its token, marking the worker streaming. -/
def startReader (w : World) (wid : Nat) : World :=
  match w.worker? wid with
  | some k =>
    let w := w.modifyWorker wid fun k => { k with streaming := true }
    let (w, tok) := w.newToken (some k.token)
    let (w, r) := w.spawn (.reader wid tok .start)
    w.modifyWorker wid fun k => { k with reader := some r }
  | none => w

/-- The control task leaves its loop: it cancels its token and starts waiting for its reader. -/
def beginStop (w : World) (t : TaskId) (wid tok : Nat) : World × Bool :=
  let w := (w.unwatch tok t).cancel tok
  (w.setJob t (.worker wid (.stopping (w.clock + stopGrace))), true)

/-- The control task ends: its command queue loses its receiver, so waiting senders are woken
    and the commands left are dropped. -/
def endWorker (w : World) (t : TaskId) (wid : Nat) : World × Bool :=
  match w.worker? wid with
  | some k =>
    let (q, left, ws) := k.commands.closeReceiver
    let w := (w.modifyWorker wid fun k => { k with commands := q }).wakeAll ws
    ((w.dropCommands left).finish t, false)
  | none => (w.finish t, false)

/-- Apply a command under the client lock: change the membership, reopen a dead stream when
    resubscription is on, and answer the change. -/
def applyCommand (w : World) (wid : Nat) (c : WorkerCommand) : World :=
  match w.worker? wid with
  | some k =>
    let (clients, d) := attachClients w.settings.policy k.clients c.robots
    let w := (w.modifyWorker wid fun k => { k with clients := clients }).unlockClients wid
    let dead := ((w.worker? wid).map fun k => !k.streaming).getD false
    let w := if w.settings.resubscribe && dead then w.startReader wid else w
    match c.ack with
    | some r => w.answer r (.delta d)
    | none => w
  | none => w

/-- One step of worker `wid`'s control task `t`. -/
def stepWorker (w : World) (t : TaskId) (wid : Nat) (phase : WorkerPhase) : World × Bool :=
  match w.worker? wid with
  | none => (w.finish t, false)
  | some k =>
    match phase with
    | .start => ((w.startReader wid).setJob t (.worker wid .idle), true)
    | .idle =>
      if w.cancelled k.token then w.beginStop t wid k.token
      else
        let (q, got, ws) := k.commands.recv t
        let w := (w.modifyWorker wid fun k => { k with commands := q }).wakeAll ws
        match got with
        | .item c => ((w.unwatch k.token t).setJob t (.worker wid (.applying c)), true)
        | .ended => w.beginStop t wid k.token
        | .empty => (w.watch k.token t, false)
    | .applying c =>
      if w.cancelled k.token then
        ((w.leaveClients wid t).dropCommands [c]).beginStop t wid k.token
      else
        let (w, got) := w.lockClients wid t
        if got then
          (((w.applyCommand wid c).unwatch k.token t).setJob t (.worker wid .idle), true)
        else (w.watch k.token t, false)
    | .stopping deadline =>
      match k.reader with
      | some r =>
        if w.isDone r then ((w.disarm t).setJob t (.worker wid .clearing), true)
        else if deadline ≤ w.clock then (((w.disarm t).abort r).setJob t (.worker wid .clearing), true)
        else ((w.joinOn r t).arm t deadline, false)
      | none => ((w.disarm t).setJob t (.worker wid .clearing), true)
    | .clearing =>
      let (w, got) := w.lockClients wid t
      if got then
        ((w.modifyWorker wid fun k => { k with clients := [] }).unlockClients wid).endWorker t wid
      else (w, false)

/-- A reader ends: its stream is dropped, the worker stops streaming, and the task ends. -/
def endReader (w : World) (t : TaskId) (wid tok : Nat) (stream : Option Nat) : World × Bool :=
  let w := w.unwatch tok t
  let w := match stream with
    | some i => w.dropStream i
    | none => w
  ((w.modifyWorker wid fun k => { k with streaming := false }).finish t, false)

/-- A reader comes down on the spot: the lock and the stream are let go, and the task ends
    without clearing the streaming flag. -/
def crashReader (w : World) (t : TaskId) (wid tok stream : Nat) : World :=
  (((w.leaveClients wid t).dropStream stream).unwatch tok t).finish t

/-- Hand a tick to the clients in order, `done` holding those already served (newest first).
    Each completed deal is written and then published. -/
def fanOut (t : TaskId) (wid tok stream : Nat) (x : PriceTick) :
    List Client → List Client → World → World × Bool
  | [], done, w =>
    let w := (w.modifyWorker wid fun k => { k with clients := done.reverse }).unlockClients wid
    (w.setJob t (.reader wid tok (.reading stream)), true)
  | c :: rest, done, w =>
    let (c', _, s) := c.onTick x
    match s with
    | .none => fanOut t wid tok stream x rest (c' :: done) w
    | .write r =>
      if w.stallTrades then
        let w := w.modifyWorker wid fun k => { k with clients := done.reverse ++ c' :: rest }
        (w.setJob t (.reader wid tok (.hung stream)), false)
      else
        let w := { w with store := (w.store.saveTrade r).1 }
        fanOut t wid tok stream x rest (c' :: done) (w.publish r)
    | .overflow _ =>
      let w := w.modifyWorker wid fun k => { k with clients := done.reverse ++ c' :: rest }
      (w.crashReader t wid tok stream, false)

/-- One step of reader `t` of worker `wid`, with token `tok`. -/
def stepReader (w : World) (t : TaskId) (wid tok : Nat) (phase : ReaderPhase) : World × Bool :=
  match w.worker? wid with
  | none => (w.finish t, false)
  | some k =>
    match phase with
    | .start =>
      if w.cancelled tok then w.endReader t wid tok none
      else
        let (f, got) := w.feed.subscribe k.symbol
        let w := { w with feed := f }
        match got with
        | .stream i => (w.setJob t (.reader wid tok (.reading i)), true)
        | .failed => w.endReader t wid tok none
        | .refused => ((w.unwatch tok t).finish t, false)
    | .reading i =>
      if w.cancelled tok then w.endReader t wid tok (some i)
      else if w.budget = 0 then (w.deferTask t, false)
      else
        match w.feed.streams[i]? with
        | none => w.endReader t wid tok (some i)
        | some q =>
          let (q', got, ws) := q.recv t
          let w := (w.modifyStream i fun _ => q').wakeAll ws
          match got with
          | .item (.tick x) =>
            ((w.unwatch tok t).spend.setJob t (.reader wid tok (.fanning i x)), true)
          | .item (.failure _) => w.endReader t wid tok (some i)
          | .ended => w.endReader t wid tok (some i)
          | .empty => (w.watch tok t, false)
    | .fanning i x =>
      if x.symbol ≠ k.symbol then (w.setJob t (.reader wid tok (.reading i)), true)
      else if w.budget = 0 then (w.deferTask t, false)
      else
        let (w, got) := w.lockClients wid t
        if got then
          fanOut t wid tok i x (((w.worker? wid).map (·.clients)).getD []) [] w.spend
        else (w, false)
    | .hung _ => (w, false)

/-- One step of task `t` stopping worker `wid`: cancel it, then wait for its control task,
    then drop its handle. -/
def stepStopper (w : World) (t : TaskId) (wid : Nat) (started : Bool) : World × Bool :=
  match w.worker? wid with
  | none => (w.finish t, false)
  | some k =>
    if !started then ((w.cancel k.token).setJob t (.stopper wid true), true)
    else if w.isDone k.task then ((w.dropHandle wid).finish t, false)
    else (w.joinOn k.task t, false)

/-- One step of task `t` answering worker `wid`'s robots through reply slot `r`. -/
def stepRobotIds (w : World) (t : TaskId) (wid r : Nat) : World × Bool :=
  let (w, got) := w.lockClients wid t
  if got then
    let ids := ((w.worker? wid).map fun k => k.clients.map (·.robotId)).getD []
    (((w.unlockClients wid).answer r (.robotIds (some ids))).finish t, false)
  else (w, false)

/-- Drop aborted task `t` where it stands: a reader lets go of the lock and of its stream. -/
def dropTask (w : World) (t : TaskId) (job : Job) : World :=
  match job with
  | .reader wid tok phase =>
    let w := w.leaveClients wid t
    let w := match phase with
      | .reading i | .fanning i _ | .hung i => w.dropStream i
      | .start => w
    (w.unwatch tok t).finish t
  | _ => w.finish t

end World

end RobotTrading
