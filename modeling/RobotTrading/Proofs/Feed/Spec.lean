import Mathlib.Tactic.SplitIfs
import RobotTrading.Engine.Session

/-!
# The contract of the scripted feed

The contract, `FeedSpec`, speaks of receivers only. A subscription fails while failures are
armed, taking one, and otherwise opens a receiver and counts it for its symbol. A push checks the
buy quote, then the sell quote, and appends the tick to every live receiver of the symbol: one
opened since the symbol was last closed or failed, whose reader has not gone away; it answers
their number. A failure appends the reason to the same receivers, answers their number and ends
them; a close ends them. A reader takes the items appended to its receiver in order, and finds
the end once the receiver has ended and nothing is left. The open streams of a symbol are its
live receivers.

The other side is a script that the session runs on the feed alone, `World.feedRun`: each
operation goes through the functions the engine's requests use.

## Main definitions

* `FeedOp`, `FeedReply` : the operations of a script and the feed's answers.
* `FeedSpec`, `FeedSpec.step`, `FeedSpec.run`, `FeedSpec.fitsAll` : the contract.
* `World.feedStep`, `World.feedRun` : a script run on the feed alone.

## Design notes

Receivers are named by their place, as the feed names its streams, so a script drops or reads
the reader of the number its subscription answered. A delivery that finds a live receiver full
waits for its reader; the contract leaves that case out, and `FeedSpec.fitsAll` says that a
script never meets it.
-/

namespace RobotTrading

/-- An operation of a script on the feed. -/
inductive FeedOp where
  /-- Subscribe to a symbol. -/
  | subscribe (s : Symbol)
  /-- Push a tick of a buy and a sell quote for a symbol. -/
  | push (s : Symbol) (buy sell : Decimal)
  /-- Fail the streams of a symbol with a reason. -/
  | fail (s : Symbol) (reason : String)
  /-- End the streams of a symbol. -/
  | close (s : Symbol)
  /-- Arm this many subscription failures. -/
  | failNext (n : Nat)
  /-- The reader of stream `i` goes away. -/
  | drop (i : Nat)
  /-- The reader of stream `i` takes what is there. -/
  | recv (i : Nat)
  /-- Ask for the open streams and the subscriptions of a symbol. -/
  | counts (s : Symbol)

/-- An answer of the feed. -/
inductive FeedReply where
  /-- What a subscription gave. -/
  | subscribed (r : ScriptedFeed.Subscription)
  /-- The refusal of a quote, or the number of streams that took the tick. -/
  | pushed (r : Except DomainError Nat)
  /-- The number of streams that took the failure. -/
  | delivered (n : Nat)
  /-- Done, with nothing to say. -/
  | done
  /-- What the reader found; nothing when its reader has gone or never was. -/
  | received (r : Option (Queue.Received FeedItem))
  /-- The open streams and the subscriptions of a symbol. -/
  | counts (live opened : Nat)

/-! ### The contract -/

namespace FeedSpec

/-- A receiver of the contract. -/
structure Receiver where
  /-- The symbol it was opened for. -/
  symbol : Symbol
  /-- The items appended to it and not read yet, oldest first. -/
  pending : List FeedItem
  /-- Its symbol was closed or failed since it was opened. -/
  ended : Bool
  /-- Its reader went away. -/
  dropped : Bool

namespace Receiver

/-- A delivery to `s` reaches the receiver. -/
def isLive (r : Receiver) (s : Symbol) : Bool := r.symbol == s && !r.ended && !r.dropped

/-- The receiver after `x` is delivered to `s`. -/
def offer (s : Symbol) (x : FeedItem) (r : Receiver) : Receiver :=
  if r.isLive s then { r with pending := r.pending ++ [x] } else r

/-- The receiver after `s` is ended. -/
def endFor (s : Symbol) (r : Receiver) : Receiver :=
  if r.isLive s then { r with ended := true } else r

/-- What its reader takes: the oldest item; else the end, once the receiver ended; else nothing
    yet. -/
def take (r : Receiver) : Receiver × Queue.Received FeedItem :=
  match r.pending with
  | x :: rest => ({ r with pending := rest }, .item x)
  | [] => (r, if r.ended then .ended else .empty)

variable {r : Receiver} {s t : Symbol} {x : FeedItem}

theorem isLive_eq_true : r.isLive s = true ↔ r.symbol = s ∧ r.ended = false ∧ r.dropped = false := by
  simp [isLive, and_assoc]

@[simp] theorem symbol_offer : (offer s x r).symbol = r.symbol := by unfold offer; split_ifs <;> rfl
@[simp] theorem ended_offer : (offer s x r).ended = r.ended := by unfold offer; split_ifs <;> rfl
@[simp] theorem dropped_offer : (offer s x r).dropped = r.dropped := by
  unfold offer; split_ifs <;> rfl
@[simp] theorem isLive_offer : (offer s x r).isLive t = r.isLive t := by simp [isLive]
@[simp] theorem symbol_endFor : (endFor s r).symbol = r.symbol := by unfold endFor; split_ifs <;> rfl
@[simp] theorem dropped_endFor : (endFor s r).dropped = r.dropped := by
  unfold endFor; split_ifs <;> rfl

@[simp] theorem ended_take : r.take.1.ended = r.ended := by
  unfold take; split <;> rfl
@[simp] theorem symbol_take : r.take.1.symbol = r.symbol := by
  unfold take; split <;> rfl
@[simp] theorem dropped_take : r.take.1.dropped = r.dropped := by
  unfold take; split <;> rfl

theorem endFor_of_isLive_eq_false (h : r.isLive s = false) : endFor s r = r := by
  simp [endFor, h]

/-- Ending `s` leaves no live receiver of `s`, and the others as they were. -/
theorem isLive_endFor : (endFor s r).isLive t = (r.isLive t && !(r.isLive s)) := by
  unfold endFor
  split_ifs with h
  · rw [h]
    simp [isLive]
  · simp [h]

end Receiver

end FeedSpec

/-- The scripted feed as its contract describes it. -/
structure FeedSpec where
  /-- The room of every receiver. -/
  capacity : Nat
  capacity_pos : 0 < capacity
  /-- Subscriptions still to fail. -/
  armed : Nat
  /-- Every receiver ever opened, named by its place. -/
  receivers : List FeedSpec.Receiver

namespace FeedSpec

/-- No receiver, room for `capacity` items in each (at least one), nothing armed. -/
def init (capacity : Nat) : FeedSpec :=
  ⟨max 1 capacity, Nat.lt_of_lt_of_le Nat.one_pos (Nat.le_max_left 1 capacity), 0, []⟩

/-- The live receivers of `s`. -/
def liveCount (σ : FeedSpec) (s : Symbol) : Nat := σ.receivers.countP (·.isLive s)

/-- The subscriptions made to `s`. -/
def opened (σ : FeedSpec) (s : Symbol) : Nat := σ.receivers.countP (·.symbol == s)

theorem opened_eq_countP_map (σ : FeedSpec) (s : Symbol) :
    σ.opened s = (σ.receivers.map (·.symbol)).countP (· == s) := by
  simp [opened, List.countP_map, Function.comp_def]

/-- Every live receiver of `s` has room for one more item. -/
def room (σ : FeedSpec) (s : Symbol) : Bool :=
  σ.receivers.all fun r => !r.isLive s || decide (r.pending.length < σ.capacity)

theorem pending_lt_of_room {σ : FeedSpec} {s : Symbol} {i : Nat} {r : Receiver}
    (hroom : σ.room s = true) (hr : σ.receivers[i]? = some r) (hlive : r.isLive s = true) :
    r.pending.length < σ.capacity := by
  simpa [hlive] using List.all_eq_true.1 hroom r (List.mem_of_getElem? hr)

/-- Deliver `x` to the live receivers of `s`. -/
def deliver (σ : FeedSpec) (s : Symbol) (x : FeedItem) : FeedSpec :=
  { σ with receivers := σ.receivers.map (Receiver.offer s x) }

/-- End the live receivers of `s`. -/
def close (σ : FeedSpec) (s : Symbol) : FeedSpec :=
  { σ with receivers := σ.receivers.map (Receiver.endFor s) }

/-- The reader of receiver `i` goes away. -/
def drop (σ : FeedSpec) (i : Nat) : FeedSpec :=
  match σ.receivers[i]? with
  | some r => { σ with receivers := σ.receivers.set i { r with dropped := true } }
  | none => σ

/-- The reader of receiver `i` takes what is there, if it has not gone. -/
def recv (σ : FeedSpec) (i : Nat) : FeedSpec × Option (Queue.Received FeedItem) :=
  match σ.receivers[i]? with
  | some r =>
    if r.dropped then (σ, none)
    else ({ σ with receivers := σ.receivers.set i r.take.1 }, some r.take.2)
  | none => (σ, none)

/-- The tick of two quotes for `s`: the buy quote is checked first, then the sell quote. -/
def quote (s : Symbol) (buy sell : Decimal) : Except DomainError PriceTick :=
  match Price.ofDecimal buy with
  | .error e => .error e
  | .ok b =>
    match Price.ofDecimal sell with
    | .error e => .error e
    | .ok a => .ok ⟨s, b, a, .now⟩

/-- One operation of the contract. -/
def step (σ : FeedSpec) : FeedOp → FeedSpec × FeedReply
  | .subscribe s =>
    if 0 < σ.armed then ({ σ with armed := σ.armed - 1 }, .subscribed .failed)
    else ({ σ with receivers := σ.receivers ++ [⟨s, [], false, false⟩] },
      .subscribed (.stream σ.receivers.length))
  | .push s buy sell =>
    match quote s buy sell with
    | .error e => (σ, .pushed (.error e))
    | .ok t => (σ.deliver s (.tick t), .pushed (.ok (σ.liveCount s)))
  | .fail s reason => ((σ.deliver s (.failure reason)).close s, .delivered (σ.liveCount s))
  | .close s => (σ.close s, .done)
  | .failNext n => ({ σ with armed := n }, .done)
  | .drop i => (σ.drop i, .done)
  | .recv i => ((σ.recv i).1, .received (σ.recv i).2)
  | .counts s => (σ, .counts (σ.liveCount s) (σ.opened s))

/-- A delivery that the operation makes finds room in every live receiver. -/
def fits (σ : FeedSpec) : FeedOp → Bool
  | .push s buy sell =>
    match quote s buy sell with
    | .ok _ => σ.room s
    | .error _ => true
  | .fail s _ => σ.room s
  | _ => true

/-- The answers of the contract to a script. -/
def run (σ : FeedSpec) : List FeedOp → List FeedReply
  | [] => []
  | op :: ops => (σ.step op).2 :: (σ.step op).1.run ops

/-- No delivery of the script finds a live receiver full. -/
def fitsAll (σ : FeedSpec) : List FeedOp → Bool
  | [] => true
  | op :: ops => σ.fits op && (σ.step op).1.fitsAll ops

end FeedSpec

/-! ### A script run on the feed -/

namespace World

/-- The session reads stream `i` on behalf of its reader, if the reader is still there. -/
def recvStream (w : World) (i : Nat) : World × Option (Queue.Received FeedItem) :=
  match w.feed.streams[i]? with
  | some q =>
    if q.receiverOpen then
      ((w.modifyStream i fun _ => (q.recv 0).1).wakeAll (q.recv 0).2.2, some (q.recv 0).2.1)
    else (w, none)
  | none => (w, none)

/-- One operation of a script, run by the session on the feed. -/
def feedStep (w : World) : FeedOp → World × FeedReply
  | .subscribe s => ({ w with feed := (w.feed.subscribe s).1 }, .subscribed (w.feed.subscribe s).2)
  | .push s buy sell =>
    match PriceTick.ofQuotes s buy sell with
    | .error e => (w, .pushed (.error e))
    | .ok t => ((w.pushFeed s (.tick t)).1, .pushed (.ok (w.pushFeed s (.tick t)).2))
  | .fail s reason => ((w.failFeed s reason).1, .delivered (w.failFeed s reason).2)
  | .close s => (w.closeFeed s, .done)
  | .failNext n => ({ w with feed := { w.feed with failSubscribes := n } }, .done)
  | .drop i => (w.dropStream i, .done)
  | .recv i => ((w.recvStream i).1, .received (w.recvStream i).2)
  | .counts s => (w, .counts (w.feed.openCount s) (w.feed.count s))

/-- The feed's answers to a script. -/
def feedRun (w : World) : List FeedOp → List FeedReply
  | [] => []
  | op :: ops => (w.feedStep op).2 :: (w.feedStep op).1.feedRun ops

end World

end RobotTrading
