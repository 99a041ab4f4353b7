import RobotTrading.Engine.Hub
import RobotTrading.Engine.Reconciler

/-!
# The scheduler

Tasks run one at a time on one thread. The scheduler takes woken tasks from
the head of the run queue and runs each until it waits again, ends, or uses up
its budget of `runBudget` units of work, when it is deferred. Between
batches of `batchSize` tasks, and whenever the run queue runs empty, it looks
at the timers: with the queue empty and the session not woken, the clock jumps
to the earliest deadline; then every timer due is fired, in deadline order, and
the deferred tasks are woken.
The session itself runs only between batches, once it has been woken.

`World.block` is the session waiting: it runs the other tasks until the
session is woken. When nothing can run and no timer is armed, the world is
stuck and the wait ends.

## Main definitions

* `World.step`, `World.poll` : running one task.
* `World.runBatch`, `World.fireDue`, `World.park`.
* `World.block` : run until the session is woken.
-/

namespace RobotTrading

namespace World

/-- How many tasks run between two looks at the session and the timers. -/
def batchSize : Nat := 61

/-- The most steps one task takes in one run. -/
def stepLimit : Nat := 100000

/-- One step of task `t`; `true` when it can go on at once. -/
def step (w : World) (t : TaskId) : World × Bool :=
  match w.tasks[t]? with
  | none => (w, false)
  | some k =>
    if k.done then (w, false)
    else if k.aborted then (w.dropTask t k.job, false)
    else
      match k.job with
      | .hub p => w.stepHub t p
      | .worker wid p => w.stepWorker t wid p
      | .reader wid tok p => w.stepReader t wid tok p
      | .stopper wid s => w.stepStopper t wid s
      | .robotIds wid r => w.stepRobotIds t wid r
      | .reconciler r => w.stepReconciler t r
      | .session => (w, false)

/-- Run task `t` until it waits or ends, for at most `fuel` steps. -/
def poll (w : World) (t : TaskId) : Nat → World
  | 0 => w
  | fuel + 1 =>
    let (w', more) := w.step t
    if more then w'.poll t fuel else w'

/-- Run up to `n` tasks from the head of the run queue; `true` when the queue ran empty. -/
def runBatch (w : World) : Nat → World × Bool
  | 0 => (w, false)
  | n + 1 =>
    match w.runQueue with
    | [] => (w, true)
    | t :: rest => ({ w with runQueue := rest, budget := runBudget }.poll t stepLimit).runBatch n

/-- Fire every timer due by now, in deadline order. -/
def fireDue (w : World) : World :=
  let (fired, left) := w.timers.due w.clock
  ({ w with timers := left }).wakeAll fired

/-- Nothing is queued: unless the session is woken or a task is deferred, the clock jumps to
    the earliest deadline; then the timers due fire. With no timer armed the world is stuck. -/
def park (w : World) : World :=
  if w.sessionWoken || !w.deferred.isEmpty then w.fireDue
  else
    match w.timers.next with
    | some d => ({ w with clock := max w.clock d }).fireDue
    | none => { w with stuck := true }

/-- The session waits: run the other tasks, batch after batch, until it is woken. After each
    batch the timers due fire, then the deferred tasks are woken. The session resumes with a
    fresh budget. -/
def block (w : World) : Nat → World
  | 0 => { w with stuck := true }
  | fuel + 1 =>
    let (w, emptied) := w.runBatch batchSize
    let w := (if emptied then w.park else w.fireDue).wakeDeferred
    if w.stuck then w
    else if w.sessionWoken then { w with sessionWoken := false, budget := runBudget }
    else w.block fuel

end World

end RobotTrading
