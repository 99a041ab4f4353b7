import RobotTrading.Robot.Basic

/-!
# The update ring

Completed deals are published to live viewers through a ring of fixed
capacity, a power of two. Publishing never waits: each update takes the next
position, overwriting the oldest one, and a viewer that falls more than the
capacity behind learns how many updates it missed and resumes at the oldest one
still held. An update published while nobody listens is not kept.

A viewer reads positions in order from the moment it subscribed. Once the ring
is closed, viewers still read what it holds and then see that it is closed.

## Main definitions

* `UpdateRing`, `UpdateRing.new`, `UpdateRing.refusal?`, `UpdateRing.subscribe`,
  `UpdateRing.unsubscribe`.
* `UpdateRing.publish`, `UpdateRing.receive`, `UpdateRing.close`.
-/

namespace RobotTrading

-- Powers of naturals and integers are the core ones (`Nat.pow`, `Int.pow`), also where a
-- larger library brings its own.
attribute [local instance (high)] instPowNat

/-- A ring of robot updates with its viewers' read positions. -/
structure UpdateRing where
  /-- The number of updates held, a power of two. -/
  capacity : Nat
  /-- The position the next update takes. -/
  tail : Nat
  /-- The held updates with their positions, oldest first, at most `capacity` of them. -/
  held : List (Nat × Robot)
  /-- Each live viewer with the position it reads next. -/
  cursors : List (Nat × Nat)
  /-- The identifier of the next viewer. -/
  nextViewer : Nat
  /-- No update will be published any more. -/
  closed : Bool
deriving DecidableEq

/-- What a viewer reads. -/
inductive Received where
  /-- The next update. -/
  | update (r : Robot)
  /-- The viewer fell behind and missed this many updates. -/
  | lagged (missed : Nat)
  /-- Nothing new yet. -/
  | empty
  /-- Nothing new, and the ring is closed. -/
  | closed
deriving DecidableEq

namespace UpdateRing

/-- An empty ring holding at least `max 1 c` updates. -/
def new (c : Nat) : UpdateRing := ⟨(max 1 c).nextPowerOfTwo, 0, [], [], 0, false⟩

/-- The largest capacity a ring can be asked for: half the machine word range. -/
def capacityLimit : Nat := 2 ^ (63 : Nat) - 1

/-- Why a ring of capacity `c` cannot be made: a capacity above `capacityLimit`, or one
    whose power of two is `2 ^ 55` or more. A slot holds an update in more than 256 bytes,
    so that many slots take more bytes than can be addressed. -/
def refusal? (c : Nat) : Option String :=
  if capacityLimit < c then some "broadcast channel capacity exceeded \x60usize::MAX / 2\x60"
  else if 2 ^ (54 : Nat) < c then some "capacity overflow"
  else none

/-- The number of live viewers. -/
def receiverCount (r : UpdateRing) : Nat := r.cursors.length

/-- A new viewer, reading from the next published update. -/
def subscribe (r : UpdateRing) : UpdateRing × Nat :=
  ({ r with cursors := r.cursors ++ [(r.nextViewer, r.tail)], nextViewer := r.nextViewer + 1 },
    r.nextViewer)

/-- The viewer is live. -/
def hasViewer (r : UpdateRing) (v : Nat) : Bool := (r.cursors.lookup v).isSome

/-- Remove a viewer. -/
def unsubscribe (r : UpdateRing) (v : Nat) : UpdateRing :=
  { r with cursors := r.cursors.filter (·.1 != v) }

/-- Publish an update to the live viewers; with none, nothing is kept. -/
def publish (r : UpdateRing) (robot : Robot) : UpdateRing :=
  if r.cursors.isEmpty then r
  else
    let held := r.held ++ [(r.tail, robot)]
    { r with tail := r.tail + 1, held := held.drop (held.length - r.capacity) }

/-- Set a viewer's read position. -/
def moveCursor (r : UpdateRing) (v pos : Nat) : UpdateRing :=
  { r with cursors := r.cursors.map fun c => if c.1 = v then (v, pos) else c }

/-- The next read of a live viewer. -/
def receive (r : UpdateRing) (v : Nat) : UpdateRing × Received :=
  let next := (r.cursors.lookup v).getD r.tail
  if r.tail ≤ next then (r, if r.closed then .closed else .empty)
  else if next + r.capacity < r.tail then
    let oldest := r.tail - r.capacity
    (r.moveCursor v oldest, .lagged (oldest - next))
  else
    match r.held.lookup next with
    | some robot => (r.moveCursor v (next + 1), .update robot)
    | none => (r, .empty)

/-- Close the ring: nothing more is published. -/
def close (r : UpdateRing) : UpdateRing := { r with closed := true }

end UpdateRing

end RobotTrading
