import RobotTrading.Market.Price
import RobotTrading.Concurrency.Queue

/-!
# The scripted price feed

A scripted feed is driven from outside: every subscription opens a fresh
bounded stream, and the script pushes a tick, or a stream failure, to every
open stream of a symbol. A stream is open while its reader holds it; streams
whose reader is gone are forgotten at the next push. Closing a symbol drops
its streams' sending side, so their readers see the end after the items left.

Subscriptions can be made to fail: a number of failures is armed, and each
subscription takes one while any are left.

## Main definitions

* `FeedItem`, `ScriptedFeed`.
* `ScriptedFeed.subscribe`, `ScriptedFeed.openCount`, `ScriptedFeed.count`.
* `ScriptedFeed.prune`, `ScriptedFeed.close`.
-/

namespace RobotTrading

/-- What a stream carries. -/
inductive FeedItem where
  /-- A price tick. -/
  | tick (t : PriceTick)
  /-- A read failure with its reason. -/
  | failure (reason : String)

/-- A feed driven by a script. -/
structure ScriptedFeed where
  /-- The bound of every stream. -/
  capacity : Nat
  /-- Every stream ever opened, named by its place. -/
  streams : Array (Queue FeedItem)
  /-- The streams of each symbol whose sending side the feed still holds, oldest first. -/
  senders : List (Symbol × List Nat)
  /-- The number of subscriptions opened per symbol. -/
  opened : List (Symbol × Nat)
  /-- Subscriptions still to fail. -/
  failSubscribes : Nat

namespace ScriptedFeed

/-- A feed with no streams, whose streams hold `capacity` items (at least one). -/
def new (capacity : Nat) : ScriptedFeed := ⟨max 1 capacity, #[], [], [], 0⟩

/-- Set the value of a key in an association list, appending a new key. -/
def assocSet {β : Type} (xs : List (Symbol × β)) (s : Symbol) (b : β) : List (Symbol × β) :=
  if xs.any (·.1 = s) then xs.map fun e => if e.1 = s then (s, b) else e else xs ++ [(s, b)]

/-- The streams of a symbol whose sending side the feed holds. -/
def held (f : ScriptedFeed) (s : Symbol) : List Nat := (f.senders.lookup s).getD []

/-- The stream named `i` still has its reader. -/
def isOpen (f : ScriptedFeed) (i : Nat) : Bool := (f.streams[i]?.map (·.receiverOpen)).getD false

/-- The number of streams of a symbol that still have their reader. -/
def openCount (f : ScriptedFeed) (s : Symbol) : Nat := ((f.held s).filter f.isOpen).length

/-- The number of subscriptions opened for a symbol. -/
def count (f : ScriptedFeed) (s : Symbol) : Nat := (f.opened.lookup s).getD 0

/-- What a subscription gives. -/
inductive Subscription where
  /-- A new stream, by its name. -/
  | stream (i : Nat)
  /-- An armed failure was taken. -/
  | failed
  /-- No stream of the feed's capacity can be made: the subscriber comes down. -/
  | refused

/-- Subscribe to a symbol: an armed failure is taken first; then a stream is made, unless the
    feed's capacity is more than a queue can hold. -/
def subscribe (f : ScriptedFeed) (s : Symbol) : ScriptedFeed × Subscription :=
  if 0 < f.failSubscribes then ({ f with failSubscribes := f.failSubscribes - 1 }, .failed)
  else if (Queue.refusal? f.capacity).isSome then (f, .refused)
  else
    let i := f.streams.size
    let f' : ScriptedFeed :=
      { f with
        streams := f.streams.push (Queue.new f.capacity)
        senders := assocSet f.senders s (f.held s ++ [i])
        opened := assocSet f.opened s (f.count s + 1) }
    (f', .stream i)

/-- Forget the streams of a symbol whose reader is gone; the streams left, oldest first. -/
def prune (f : ScriptedFeed) (s : Symbol) : ScriptedFeed × List Nat :=
  let live := (f.held s).filter f.isOpen
  (if f.senders.any (·.1 = s) then { f with senders := assocSet f.senders s live } else f, live)

/-- Change the stream named `i`. -/
def modifyStream (f : ScriptedFeed) (i : Nat) (g : Queue FeedItem → Queue FeedItem) : ScriptedFeed :=
  { f with streams := f.streams.modify i g }

/-- Drop the sending side of every stream of a symbol, waking their readers. -/
def close (f : ScriptedFeed) (s : Symbol) : ScriptedFeed × List TaskId :=
  let f' := { f with senders := f.senders.filter (·.1 != s) }
  (f.held s).foldl (fun (acc : ScriptedFeed × List TaskId) i =>
    match acc.1.streams[i]? with
    | some q =>
      let (q', ws) := q.closeSender
      (acc.1.modifyStream i fun _ => q', acc.2 ++ ws)
    | none => acc) (f', [])

/-- Symbols with at least one subscription, with their open streams and subscription
    count, ordered by ticker. -/
def summary (f : ScriptedFeed) : List (Symbol × Nat × Nat) :=
  let rows := (f.opened.filter fun e => 0 < e.2).map fun e => (e.1, f.openCount e.1, e.2)
  rows.foldl (fun acc r => insertRow r acc) []
where
  /-- Insert a row into a list ordered by ticker. -/
  insertRow (r : Symbol × Nat × Nat) : List (Symbol × Nat × Nat) → List (Symbol × Nat × Nat)
    | [] => [r]
    | x :: xs => if r.1.text < x.1.text then r :: x :: xs else x :: insertRow r xs

end ScriptedFeed

end RobotTrading
