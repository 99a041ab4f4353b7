import RobotTrading.Engine.Worker

/-!
# The engine hub

The hub is the registry of symbol workers. Every change goes through its one
request loop, so two passes can never race on a worker's life. It takes every
request waiting in its queue in one run and never waits inside a request:

* a register starts a worker unless the symbol has one;
* an unregister removes the symbol's worker and cancels it without waiting;
* a broadcast hands the fresh robot list to the worker without waiting; a
  full worker queue drops the list, a closed one drops the worker;
* a symbols request is answered at once, a robots request by a helper task
  that waits for the worker's client lock.

Requests for an unknown symbol are ignored. When the hub is cancelled, or
every sender is gone, it cancels its token and stops its workers one by one,
in symbol order, waiting for each to end; then its queue closes.

A register whose worker queue could not be made (more slots than a queue can
have) kills the hub's task on the spot: the registry lets go of every worker's
handle and the queue closes, while the hub's token stays as it was.

## Main definitions

* `World.handleRequest` : one request.
* `World.stepHub` : one step of the hub's task.
-/

namespace RobotTrading

namespace World

/-- Insert a symbol's worker into a list ascending by symbol. -/
def insertEntry (e : Symbol × Nat) : List (Symbol × Nat) → List (Symbol × Nat)
  | [] => [e]
  | f :: rest => if e.1 < f.1 then e :: f :: rest else f :: insertEntry e rest

/-- Remove a symbol from the hub's registry. -/
def forget (w : World) (s : Symbol) : World :=
  w.modifyHub fun h => { h with workers := h.workers.filter (·.1 != s) }

/-- Carry out one hub request. -/
def handleRequest (w : World) (req : HubRequest) : World :=
  match w.hub with
  | none => w.dropRequest req
  | some h =>
    match req with
    | .command (.register s robots) =>
      if h.workers.any (·.1 = s) then w
      else
        let (w, wid) := w.spawnWorker s robots h.token
        w.modifyHub fun h => { h with workers := insertEntry (s, wid) h.workers }
    | .command (.unregister s) =>
      match h.workers.lookup s with
      | some wid => (w.forget s).cancelWorker wid
      | none => w
    | .command (.broadcast s robots) =>
      match h.workers.lookup s with
      | some wid =>
        match w.tryCommand wid ⟨robots, none⟩ with
        | .ok w => w
        | .error .full => w
        | .error .closed => (w.forget s).cancelWorker wid
      | none => w
    | .symbols r => w.answer r (.symbols (h.workers.map (·.1)))
    | .robotIds s r =>
      match h.workers.lookup s with
      | some wid => (w.spawn (.robotIds wid r)).1
      | none => w.answer r (.robotIds none)

/-- The hub leaves its loop: it cancels its token and takes its workers to stop them. -/
def leaveHub (w : World) (t : TaskId) (h : Hub) : World × Bool :=
  let w := (w.unwatch h.token t).cancel h.token
  let w := w.modifyHub fun h => { h with workers := [] }
  (w.setJob t (.hub (.stopping (h.workers.map (·.2)))), true)

/-- The hub ends: its queue loses its receiver, waiting senders are woken and the requests
    left are dropped. -/
def endHub (w : World) (t : TaskId) : World × Bool :=
  match w.hub with
  | some h =>
    let (q, left, ws) := h.requests.closeReceiver
    let w := (w.modifyHub fun h => { h with requests := q }).wakeAll ws
    ((left.foldl dropRequest w).finish t, false)
  | none => (w.finish t, false)

/-- The request starts a worker whose command queue cannot be made. -/
def refusesWorker (w : World) (h : Hub) : HubRequest → Bool
  | .command (.register s _) =>
    !(h.workers.any (·.1 = s)) && (Queue.refusal? w.settings.workerCapacity).isSome
  | _ => false

/-- The hub's task dies: the registry lets go of every worker's handle and the queue closes. -/
def abortHub (w : World) (t : TaskId) (h : Hub) : World × Bool :=
  let w := h.workers.foldl (fun w e => w.dropHandle e.2) (w.unwatch h.token t)
  let w := w.modifyHub fun h => { h with workers := [] }
  w.endHub t

/-- One step of the hub's task `t`. -/
def stepHub (w : World) (t : TaskId) (phase : HubPhase) : World × Bool :=
  match w.hub with
  | none => (w.finish t, false)
  | some h =>
    match phase with
    | .serving =>
      if w.cancelled h.token then w.leaveHub t h
      else
        let (q, got, ws) := h.requests.recv t
        let w := (w.modifyHub fun h => { h with requests := q }).wakeAll ws
        match got with
        | .item req =>
          if w.refusesWorker h req then w.abortHub t h
          else ((w.unwatch h.token t).handleRequest req, true)
        | .ended => w.leaveHub t h
        | .empty => (w.watch h.token t, false)
    | .stopping [] => w.endHub t
    | .stopping (wid :: rest) =>
      match w.worker? wid with
      | some k =>
        let w := w.cancel k.token
        if w.isDone k.task then ((w.dropHandle wid).setJob t (.hub (.stopping rest)), true)
        else (w.joinOn k.task t, false)
      | none => (w.setJob t (.hub (.stopping rest)), true)

end World

end RobotTrading
