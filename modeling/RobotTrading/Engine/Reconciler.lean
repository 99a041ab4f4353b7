import RobotTrading.Engine.World

/-!
# The reconciler task

The reconciler is the engine's only polling point. Its interval starts when
it first runs. It first adopts the symbols the hub already runs workers for;
then, on every tick of its interval, starting at once, it reads the robots
eligible at the wall-clock time, plans against its known symbols and sends
the plan's commands to the hub one by one, updating the known symbols as each
is sent.

A failed read skips the pass and leaves the known symbols alone. A closed hub
ends the reconciler. Cancellation is honoured while waiting for the hub as
well as between passes. A tick more than 5 milliseconds late moves the next
tick one interval past the time it was taken; otherwise ticks stay on the
interval's grid.

## Main definitions

* `World.stepReconciler` : one step of a reconciler's task.
-/

namespace RobotTrading

namespace World

/-- The reconciler `t` ends. -/
def endReconciler (w : World) (t : TaskId) (r : ReconcilerState) : World × Bool :=
  (((w.unwatch r.token t).disarm t).finish t, false)

/-- The time of the tick after one due at `due` and taken at `now`. -/
def nextTickAfter (due now every : Nat) : Nat := if due + 5 < now then now + every else due + every

/-- One step of the reconciler's task `t`. -/
def stepReconciler (w : World) (t : TaskId) (r : ReconcilerState) : World × Bool :=
  let go (w : World) (r' : ReconcilerState) : World × Bool := (w.setJob t (.reconciler r'), true)
  match r.phase with
  | .start => go w { r with nextTick := w.clock, phase := .seeding }
  | .seeding =>
    if w.cancelled r.token then (w.withdrawRequest t).endReconciler t r
    else
      let (w, res) := w.reserveRequest t
      match res with
      | .granted =>
        let (w, slot) := w.newReply
        go (w.pushRequest (.symbols slot)) { r with phase := .awaitingSeed slot }
      | .closed => w.endReconciler t r
      | .waiting => (w.watch r.token t, false)
  | .awaitingSeed slot =>
    if w.cancelled r.token then (w.leaveReply slot).endReconciler t r
    else
      let (w, a) := w.pollReply slot t
      match a with
      | .value (.symbols ss) => go (w.unwatch r.token t) { r with known := ss, phase := .waiting }
      | .value _ => w.endReconciler t r
      | .dropped => w.endReconciler t r
      | .pending => (w.watch r.token t, false)
  | .waiting =>
    if w.cancelled r.token then w.endReconciler t r
    else if r.nextTick ≤ w.clock then
      let next := nextTickAfter r.nextTick w.clock w.reconcileEvery
      let w := (w.disarm t).unwatch r.token t
      if w.failReads then go w { r with nextTick := next }
      else
        let plan := ReconcilePlan.ofRobots r.known (w.store.findActive w.wallClock)
        go w { r with nextTick := next, phase := .sending plan.commands }
    else ((w.arm t r.nextTick).watch r.token t, false)
  | .sending [] => go w { r with phase := .waiting }
  | .sending (c :: rest) =>
    if w.cancelled r.token then (w.withdrawRequest t).endReconciler t r
    else
      let (w, res) := w.reserveRequest t
      match res with
      | .granted =>
        go ((w.pushRequest (.command c)).unwatch r.token t)
          { r with known := HubCommand.updateKnown r.known c, phase := .sending rest }
      | .closed => w.endReconciler t r
      | .waiting => (w.watch r.token t, false)

end World

end RobotTrading
