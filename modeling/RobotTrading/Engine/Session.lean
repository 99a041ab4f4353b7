import RobotTrading.Engine.Scheduler

/-!
# Driving the engine

The session is task 0. It acts on the world directly (pushing to the feed,
sending to the hub, calling a worker's handle) and waits like any task: it
asks for what it needs, and when that is not there yet it lets the other tasks
run until it is woken, then asks again. Waits can be bounded by a deadline on
the virtual clock.

The engine as its owner sees it holds a root token, the hub and the
reconciler. Starting spawns the hub if there is none and a reconciler if there
is none; stopping cancels the reconciler and waits for it; shutting down stops,
then cancels the hub and waits for it, then cancels the root.

## Main definitions

* `World.awaitUntil`, `World.sleep` : the session's waits.
* `Outcome` : how a bounded wait for an answer ended.
* `World.querySymbols`, `World.queryRobotIds`, `World.requestHub` : the hub's handle.
* `World.pushFeed`, `World.failFeed`, `World.closeFeed` : the feed's script, a delivery made
  stream by stream with `World.deliverTo`.
* `World.applyAndWait`, `World.stopWorker`, `World.workerRows` : a worker's handle.
* `Running`, `Engine`, `World.startEngine`, `World.stopReconciler`, `World.shutdownEngine`.
-/

namespace RobotTrading

/-- The most times the session waits again for one thing. -/
def waitLimit : Nat := 10000

/-- The most batches the other tasks run while the session waits once. -/
def blockLimit : Nat := 100000

/-- The bound, in milliseconds, of a query to the hub or to a worker. -/
def queryBound : Nat := 10

/-- The bound, in milliseconds, of stopping a worker, the engine or the hub. -/
def stopBound : Nat := 60000

/-- How a bounded wait for an answer ended. -/
inductive Outcome (α : Type) where
  /-- The answer. -/
  | ok (a : α)
  /-- The other side is gone. -/
  | closed
  /-- The deadline passed first. -/
  | timeout

namespace World

/-- The session has used up its budget: it lets the other tasks run for a batch and resumes
    with a fresh one. -/
def yieldBudget (w : World) : World := (w.deferTask 0).block blockLimit

/-- The session waits until `poll` gives an answer, or until the deadline passes; `none` when
    it passed, or when nothing could run any more. An answer or a passed deadline costs one
    unit of budget; with none left the session first lets the others run. -/
def awaitUntil {α : Type} (w : World) (deadline : Option Nat) (poll : World → World × Option α) :
    Nat → World × Option α
  | 0 => (w, none)
  | fuel + 1 =>
    if w.budget = 0 then w.yieldBudget.awaitUntil deadline poll fuel
    else
    let (w, r) := poll w
    match r with
    | some a => ((w.disarm 0).spend, some a)
    | none =>
      match deadline with
      | some d =>
        if d ≤ w.clock then ((w.disarm 0).spend, none)
        else
          let w := (w.arm 0 d).block blockLimit
          if w.stuck then ({ w with stuck := false }.disarm 0, none)
          else w.awaitUntil deadline poll fuel
      | none =>
        let w := w.block blockLimit
        if w.stuck then ({ w with stuck := false }, none)
        else w.awaitUntil deadline poll fuel

/-- The session sleeps for `ms` milliseconds while the other tasks run. -/
def sleep (w : World) (ms : Nat) : World :=
  (w.awaitUntil (some (w.clock + ms)) (fun w => (w, (none : Option Unit))) waitLimit).1

/-- The session sends a request to the hub, waiting for a slot until the deadline. -/
def requestHub (w : World) (deadline : Option Nat) (req : HubRequest) : World × Outcome Unit :=
  let (w, r) := w.awaitUntil deadline (fun w =>
    let (w, res) := w.reserveRequest 0
    match res with
    | .granted => (w.pushRequest req, some true)
    | .closed => (w, some false)
    | .waiting => (w, none)) waitLimit
  match r with
  | some true => (w, .ok ())
  | some false => (w.dropRequest req, .closed)
  | none => ((w.withdrawRequest 0).dropRequest req, .timeout)

/-- The session waits for the answer in reply slot `r` until the deadline. -/
def awaitAnswer (w : World) (deadline : Option Nat) (r : Nat) : World × Outcome ReplyValue :=
  let (w, a) := w.awaitUntil deadline (fun w =>
    let (w, a) := w.pollReply r 0
    match a with
    | .value v => (w, some (some v))
    | .dropped => (w, some none)
    | .pending => (w, none)) waitLimit
  match a with
  | some (some v) => (w, .ok v)
  | some none => (w, .closed)
  | none => (w.leaveReply r, .timeout)

/-- Ask the hub a question and wait for the answer, both within the query bound. -/
def askHub (w : World) (question : Nat → HubRequest) : World × Outcome ReplyValue :=
  let deadline := some (w.clock + queryBound)
  let (w, r) := w.newReply
  match w.requestHub deadline (question r) with
  | (w, .ok ()) => w.awaitAnswer deadline r
  | (w, .closed) => (w, .closed)
  | (w, .timeout) => (w, .timeout)

/-- The symbols the hub runs workers for. -/
def querySymbols (w : World) : World × Outcome (List Symbol) :=
  match w.askHub .symbols with
  | (w, .ok (.symbols ss)) => (w, .ok ss)
  | (w, .ok _) => (w, .closed)
  | (w, .closed) => (w, .closed)
  | (w, .timeout) => (w, .timeout)

/-- The robots attached to a symbol's worker, `none` when the symbol has no worker. -/
def queryRobotIds (w : World) (s : Symbol) : World × Outcome (Option (List Int)) :=
  match w.askHub (.robotIds s) with
  | (w, .ok (.robotIds ids)) => (w, .ok ids)
  | (w, .ok _) => (w, .closed)
  | (w, .closed) => (w, .closed)
  | (w, .timeout) => (w, .timeout)

/-- The session gives up waiting for a slot in stream `i`. -/
def withdrawStream (w : World) (i : Nat) : World :=
  match w.feed.streams[i]? with
  | some q =>
    let (q', ws) := q.withdraw 0
    (w.modifyStream i fun _ => q').wakeAll ws
  | none => w

/-- The session's look at stream `i` while it delivers `item`: it takes a slot and fills it,
    finds the stream closed, or waits in line. -/
def offerStream (w : World) (i : Nat) (item : FeedItem) : World × Option Bool :=
  let (w, res) := w.reserveStream i 0
  match res with
  | .granted => (w.pushStream i item, some true)
  | .closed => (w, some false)
  | .waiting => (w, none)

/-- The session delivers `item` to stream `i`, waiting for a slot; the count goes up when the
    stream takes it. -/
def deliverTo (item : FeedItem) (acc : World × Nat) (i : Nat) : World × Nat :=
  let (w, r) := acc.1.awaitUntil none (·.offerStream i item) waitLimit
  match r with
  | some true => (w, acc.2 + 1)
  | some false => (w, acc.2)
  | none => (w.withdrawStream i, acc.2)

/-- Deliver an item to every open stream of a symbol, one after the other, waiting for a slot
    in each; the number of streams that took it. -/
def pushFeed (w : World) (s : Symbol) (item : FeedItem) : World × Nat :=
  let (f, live) := w.feed.prune s
  live.foldl (deliverTo item) ({ w with feed := f }, 0)

/-- End every stream of a symbol. -/
def closeFeed (w : World) (s : Symbol) : World :=
  let (f, ws) := w.feed.close s
  ({ w with feed := f }).wakeAll ws

/-- Deliver a stream failure to every open stream of a symbol, then end them. -/
def failFeed (w : World) (s : Symbol) (reason : String) : World × Nat :=
  let (w, n) := w.pushFeed s (.failure reason)
  (w.closeFeed s, n)

/-- The session waits for task `t` to end until the deadline; `true` when it did. -/
def awaitTask (w : World) (deadline : Option Nat) (t : TaskId) : World × Bool :=
  let (w, r) := w.awaitUntil deadline (fun w =>
    if w.isDone t then (w, some ()) else (w.joinOn t 0, none)) waitLimit
  (w, r.isSome)

/-- Give worker `wid` a fresh robot list and wait, within the query bound, for the change. -/
def applyAndWait (w : World) (wid : Nat) (robots : List Robot) : World × Outcome MembershipDelta :=
  let deadline := some (w.clock + queryBound)
  let (w, r) := w.newReply
  let (w, sent) := w.awaitUntil deadline (fun w =>
    let (w, res) := w.reserveCommand wid 0
    match res with
    | .granted => (w.pushCommand wid ⟨robots, some r⟩, some true)
    | .closed => (w, some false)
    | .waiting => (w, none)) waitLimit
  match sent with
  | some false => (w, .closed)
  | none => (w.withdrawCommand wid 0, .timeout)
  | some true =>
    match w.awaitAnswer deadline r with
    | (w, .ok (.delta d)) => (w, .ok d)
    | (w, .ok _) => (w, .closed)
    | (w, .closed) => (w, .closed)
    | (w, .timeout) => (w, .timeout)

/-- Stop worker `wid` through its handle: cancel it and wait for it within the stop bound,
    then drop the handle. `true` when it ended in time. -/
def stopWorker (w : World) (wid : Nat) : World × Bool :=
  match w.worker? wid with
  | some k =>
    let w := w.cancel k.token
    let (w, ended) := w.awaitTask (some (w.clock + stopBound)) k.task
    (w.dropHandle wid, ended)
  | none => (w, true)

/-- Read worker `wid`'s clients under its lock, waiting for the lock until the deadline. -/
def lockedRead {α : Type} (w : World) (deadline : Option Nat) (wid : Nat) (read : List Client → α) :
    World × Option α :=
  let (w, r) := w.awaitUntil deadline (fun w =>
    let (w, got) := w.lockClients wid 0
    if got then
      let v := read (((w.worker? wid).map (·.clients)).getD [])
      (w.unlockClients wid, some v)
    else (w, none)) waitLimit
  match r with
  | some v => (w, some v)
  | none => (w.leaveClients wid 0, none)

/-- Worker `wid`'s attached robots through its handle, within the query bound: the
    identifiers first, then each robot's record and decision state; `none` on timeout. -/
def workerRows (w : World) (wid : Nat) :
    World × Option (List (Int × Option Robot × Option DealState)) :=
  let deadline := some (w.clock + queryBound)
  let find (id : Int) (cs : List Client) := cs.find? (·.robotId = id)
  match w.lockedRead deadline wid fun cs => cs.map (·.robotId) with
  | (w, none) => (w, none)
  | (w, some ids) =>
    ids.foldl (fun acc id =>
      match acc with
      | (w, none) => (w, none)
      | (w, some rows) =>
        match w.lockedRead deadline wid fun cs => (find id cs).map (·.robot) with
        | (w, none) => (w, none)
        | (w, some robot) =>
          match w.lockedRead deadline wid fun cs => (find id cs).map (·.machine.state) with
          | (w, none) => (w, none)
          | (w, some st) => (w, some (rows ++ [(id, robot, st)]))) (w, some [])

/-- Spawn the hub with a request queue of `capacity` slots under token `tok`. -/
def spawnHub (w : World) (capacity tok : Nat) : World × TaskId :=
  ({ w with hub := some ⟨Queue.new capacity, [], tok, w.tasks.size⟩ }).spawn (.hub .serving)

end World

/-- A task and the token that stops it. -/
structure Running where
  /-- The token. -/
  token : Nat
  /-- The task. -/
  task : TaskId

/-- The trading engine as its owner sees it. -/
structure Engine where
  /-- The root token. -/
  root : Nat
  /-- The bound of the hub's request queue. -/
  hubCapacity : Nat
  /-- The hub, once started. -/
  hub : Option Running
  /-- The reconciler, while running. -/
  reconciler : Option Running

namespace World

/-- Start the engine: the hub if there is none, then a reconciler if there is none. -/
def startEngine (w : World) (e : Engine) : World × Engine :=
  let (w, e) := match e.hub with
    | some _ => (w, e)
    | none =>
      let (w, tok) := w.newToken (some e.root)
      let (w, h) := w.spawnHub e.hubCapacity tok
      (w, { e with hub := some ⟨tok, h⟩ })
  match e.reconciler with
  | some _ => (w, e)
  | none =>
    let (w, tok) := w.newToken (some e.root)
    let (w, t) := w.spawn (.reconciler ⟨tok, [], 0, .start⟩)
    (w, { e with reconciler := some ⟨tok, t⟩ })

/-- Stop the reconciler, if running, and wait for it until the deadline. -/
def stopReconciler (w : World) (e : Engine) (deadline : Option Nat) : World × Engine × Bool :=
  match e.reconciler with
  | some r =>
    let (w, ended) := (w.cancel r.token).awaitTask deadline r.task
    (w, { e with reconciler := none }, ended)
  | none => (w, e, true)

/-- Shut the engine down until the deadline: stop the reconciler, then cancel the hub and wait
    for it, then cancel the root. `true` when it all ended in time. -/
def shutdownEngine (w : World) (e : Engine) (deadline : Option Nat) : World × Bool :=
  let (w, e, ended) := w.stopReconciler e deadline
  if !ended then (w, false)
  else
    let (w, ended) := match e.hub with
      | some h => (w.cancel h.token).awaitTask deadline h.task
      | none => (w, true)
    if !ended then (w, false) else (w.cancel e.root, true)

end World

end RobotTrading
