/-!
# Bounded queues between tasks

A bounded queue carries items from its senders to one receiver in arrival
order. Its capacity is shared out as slots: a sender takes a free slot and puts
its item at the tail; the receiver takes the head and gives the slot back. A
sender that finds no free slot waits in line, and a slot given back goes to the
first sender in line, which is then woken. So senders are served in the order
they asked, and a new sender never overtakes one that waits.

A queue is closed from either end. With the receiver gone, every waiting
sender is woken to find the queue closed, and the items left in it are
dropped. With the sender gone, the receiver still takes the items left and
then finds that the queue has ended.

Every operation returns, beside the new queue, the tasks it wakes, in order.

## Main definitions

* `TaskId` : the identifier of a task.
* `Queue`, `Queue.new`, `Queue.refusal?`.
* `Queue.trySend`, `Queue.reserve`, `Queue.push`, `Queue.recv`, `Queue.withdraw`.
* `Queue.closeReceiver`, `Queue.closeSender`.
-/

namespace RobotTrading

-- Powers of naturals and integers are the core ones (`Nat.pow`, `Int.pow`), also where a
-- larger library brings its own.
attribute [local instance (high)] instPowNat

/-- Identifier of a task of the runtime. Task 0 is the session that drives the runtime. -/
abbrev TaskId := Nat

/-- A bounded queue with one receiver. -/
structure Queue (α : Type) where
  /-- Items in arrival order. -/
  items : List α
  /-- Slots that hold no item and were handed to no sender. -/
  free : Nat
  /-- Senders waiting for a slot, first come first. -/
  waiting : List TaskId
  /-- Senders handed a slot that they have not filled yet. -/
  granted : List TaskId
  /-- The receiver, when it waits for an item. -/
  receiverWaker : Option TaskId
  /-- The sending side is still held. -/
  senderOpen : Bool
  /-- The receiving side is still held. -/
  receiverOpen : Bool

namespace Queue

variable {α : Type}

/-- An empty open queue with `capacity` slots, at least one. -/
def new (capacity : Nat) : Queue α := ⟨[], max 1 capacity, [], [], none, true, true⟩

/-- The most slots a queue can have: the slot count shares a machine word with three flag
    bits. -/
def slotLimit : Nat := 2 ^ (61 : Nat) - 1

/-- Why a queue of `capacity` slots cannot be made: more slots than `slotLimit`. -/
def refusal? (capacity : Nat) : Option String :=
  if slotLimit < capacity then
    some "a semaphore may not have more than MAX_PERMITS permits (2305843009213693951)"
  else none

/-- Why an item is not taken at once. -/
inductive Refusal where
  /-- Every slot is taken. -/
  | full
  /-- The receiver is gone. -/
  | closed
deriving DecidableEq

/-- What a sender finds when it asks for a slot. -/
inductive Reservation where
  /-- A slot is its own; the item can go in. -/
  | granted
  /-- It waits in line for a slot. -/
  | waiting
  /-- The receiver is gone. -/
  | closed
deriving DecidableEq

/-- What the receiver finds. -/
inductive Received (α : Type) where
  /-- The head item, now taken. -/
  | item (x : α)
  /-- No item is left and the sender is gone. -/
  | ended
  /-- No item yet; the receiver is woken when one arrives. -/
  | empty

/-- Wake the receiver if it waits. -/
def wakeReceiver (q : Queue α) : Queue α × List TaskId :=
  match q.receiverWaker with
  | some t => ({ q with receiverWaker := none }, [t])
  | none => (q, [])

/-- Put an item at the tail, its slot already taken, and wake the receiver. -/
def push (q : Queue α) (x : α) : Queue α × List TaskId :=
  wakeReceiver { q with items := q.items ++ [x] }

/-- Send without waiting: take a free slot for the item, or refuse. -/
def trySend (q : Queue α) (x : α) : Except Refusal (Queue α × List TaskId) :=
  if !q.receiverOpen then .error .closed
  else if q.free = 0 then .error .full
  else .ok (push { q with free := q.free - 1 } x)

/-- Ask for a slot on behalf of task `t`: a slot handed to it earlier, a free slot when
    nobody waits, or a place at the end of the line. -/
def reserve (q : Queue α) (t : TaskId) : Queue α × Reservation :=
  if t ∈ q.granted then ({ q with granted := q.granted.erase t }, .granted)
  else if !q.receiverOpen then ({ q with waiting := q.waiting.erase t }, .closed)
  else if 0 < q.free ∧ q.waiting.isEmpty then ({ q with free := q.free - 1 }, .granted)
  else if t ∈ q.waiting then (q, .waiting)
  else ({ q with waiting := q.waiting ++ [t] }, .waiting)

/-- Give a slot back: to the first sender in line, which is woken, or to the free slots. -/
def release (q : Queue α) : Queue α × List TaskId :=
  match q.waiting with
  | t :: rest => ({ q with waiting := rest, granted := q.granted ++ [t] }, [t])
  | [] => ({ q with free := q.free + 1 }, [])

/-- Task `t` stops asking for a slot; a slot already handed to it goes on down the line. -/
def withdraw (q : Queue α) (t : TaskId) : Queue α × List TaskId :=
  if t ∈ q.granted then release { q with granted := q.granted.erase t }
  else ({ q with waiting := q.waiting.erase t }, [])

/-- Receive on behalf of task `t`: take the head and give its slot back, or find the queue
    ended, or wait for an item. -/
def recv (q : Queue α) (t : TaskId) : Queue α × Received α × List TaskId :=
  match q.items with
  | x :: rest =>
    let (q', ws) := release { q with items := rest }
    (q', .item x, ws)
  | [] =>
    if q.senderOpen then ({ q with receiverWaker := some t }, .empty, [])
    else (q, .ended, [])

/-- Drop the receiving side: the items left are returned and the senders in line woken. -/
def closeReceiver (q : Queue α) : Queue α × List α × List TaskId :=
  ({ q with receiverOpen := false, items := [], waiting := [], receiverWaker := none },
    q.items, q.waiting)

/-- Drop the sending side and wake the receiver. -/
def closeSender (q : Queue α) : Queue α × List TaskId :=
  wakeReceiver { q with senderOpen := false }

end Queue

end RobotTrading
