import RobotTrading.Engine.Session
import RobotTrading.Proofs.Engine.Workers

/-!
# The feed driven alone

A script that drives the price feed with no engine around it runs in a quiet world: the session
is the only task, and nothing is queued, deferred or timed. There a bounded wait never waits
for long: when the session's budget is spent, letting the others run only renews it, and a look
at a stream with a free slot fills it. So delivering an item to streams with room fills each of
them at once, and closing a symbol ends exactly the streams the feed held for it.

## Main definitions

* `Queue.Ready`, `Queue.filled`, `Queue.ended` : a stream a lone sender fills at once, and the
  stream after it is filled or its sending side dropped.
* `World.Quiet` : the session is alone.

## Main statements

* `World.Quiet.yieldBudget_eq` : letting the others run only renews the budget.
* `World.Quiet.pushFeed` : a delivery to streams with room.
* `World.Quiet.closeFeed` : the end of a symbol's streams.
-/

namespace RobotTrading

namespace Queue

variable {α : Type}

/-- A queue that a lone sender fills at once: its receiver is there, no slot is promised or
    asked for, and a slot is free. -/
structure Ready (q : Queue α) : Prop where
  receiverOpen : q.receiverOpen = true
  granted : q.granted = []
  waiting : q.waiting = []
  free : 0 < q.free

/-- The queue after a lone sender took a free slot and put `x` in it. -/
def filled (q : Queue α) (x : α) : Queue α :=
  { q with free := q.free - 1, items := q.items ++ [x], receiverWaker := none }

/-- The queue after its sending side is dropped. -/
def ended (q : Queue α) : Queue α := { q with senderOpen := false, receiverWaker := none }

@[simp] theorem ended_ended (q : Queue α) : q.ended.ended = q.ended := rfl

theorem reserve_of_ready {q : Queue α} (h : q.Ready) (t : TaskId) :
    q.reserve t = ({ q with free := q.free - 1 }, .granted) := by
  simp [reserve, h.granted, h.receiverOpen, h.waiting, h.free]

theorem push_fst_of_free (q : Queue α) (x : α) :
    (Queue.push { q with free := q.free - 1 } x).1 = q.filled x := by
  cases q with
  | mk items free waiting granted waker senderOpen receiverOpen =>
    cases waker <;> rfl

theorem closeSender_fst (q : Queue α) : q.closeSender.1 = q.ended := by
  cases q with
  | mk items free waiting granted waker senderOpen receiverOpen =>
    cases waker <;> rfl

end Queue

namespace ScriptedFeed

@[simp] theorem streams_modifyStream (f : ScriptedFeed) (i : Nat)
    (g : Queue FeedItem → Queue FeedItem) : (f.modifyStream i g).streams = f.streams.modify i g :=
  rfl

/-- Changing a stream twice, the second time to a fixed queue, is changing it once. -/
theorem modifyStream_modifyStream_const (f : ScriptedFeed) (i : Nat)
    (g : Queue FeedItem → Queue FeedItem) (c : Queue FeedItem) :
    (f.modifyStream i g).modifyStream i (fun _ => c) = f.modifyStream i fun _ => c := by
  have hs : (f.streams.modify i g).modify i (fun _ => c) = f.streams.modify i fun _ => c := by
    refine Array.ext_getElem? fun j => ?_
    simp only [Array.getElem?_modify]
    split_ifs <;> cases f.streams[j]? <;> rfl
  simp only [modifyStream, hs]

end ScriptedFeed

namespace World

/-- The session is alone: nothing is queued or deferred, no timer is armed, the world is not
    stuck and the session is the only task. -/
structure Quiet (w : World) : Prop where
  runQueue : w.runQueue = []
  deferred : w.deferred = []
  timers : w.timers = []
  stuck : w.stuck = false
  alone : w.tasks.size = 1

/-! ### What the feed's helpers leave alone -/

section Frame

variable (w : World)

@[simp] theorem wake_feed (t : TaskId) : (w.wake t).feed = w.feed :=
  keeps_wake w feed (fun _ _ _ => rfl) t

@[simp] theorem wakeAll_feed (ts : List TaskId) : (w.wakeAll ts).feed = w.feed :=
  keeps_wakeAll w feed (fun _ _ _ => rfl) ts

@[simp] theorem modifyStream_feed (i : Nat) (g : Queue FeedItem → Queue FeedItem) :
    (w.modifyStream i g).feed = w.feed.modifyStream i g := rfl

end Frame

variable {w : World}

/-! ### Quiet worlds -/

namespace Quiet

theorem wake (h : w.Quiet) (t : TaskId) : (w.wake t).Quiet := by
  by_cases h0 : t = 0
  · rw [World.wake, if_pos h0]
    exact ⟨h.runQueue, h.deferred, h.timers, h.stuck, h.alone⟩
  · -- every task but the session has ended, for there is none
    have hnone : w.tasks[t]? = none :=
      Array.getElem?_eq_none (by rw [h.alone]; exact Nat.pos_of_ne_zero h0)
    have hdone : w.isDone t = true := by simp [isDone, hnone]
    rw [World.wake, if_neg h0, if_pos hdone]
    exact h

theorem wakeAll (h : w.Quiet) (ts : List TaskId) : (w.wakeAll ts).Quiet := by
  induction ts generalizing w with
  | nil => exact h
  | cons t ts ih => exact ih (h.wake t)

theorem modifyStream (h : w.Quiet) (i : Nat) (g : Queue FeedItem → Queue FeedItem) :
    (w.modifyStream i g).Quiet :=
  ⟨h.runQueue, h.deferred, h.timers, h.stuck, h.alone⟩

theorem setFeed (h : w.Quiet) (f : ScriptedFeed) : ({ w with feed := f } : World).Quiet :=
  ⟨h.runQueue, h.deferred, h.timers, h.stuck, h.alone⟩

theorem spend (h : w.Quiet) : w.spend.Quiet := ⟨h.runQueue, h.deferred, h.timers, h.stuck, h.alone⟩

theorem disarm (h : w.Quiet) (t : TaskId) : (w.disarm t).Quiet :=
  ⟨h.runQueue, h.deferred, by simp [World.disarm, Timers.disarm, h.timers], h.stuck, h.alone⟩

/-- With nobody else to run and no timer, letting the others run only renews the budget. -/
theorem yieldBudget_eq (h : w.Quiet) :
    w.yieldBudget = { w with sessionWoken := false, budget := runBudget } := by
  obtain ⟨hrun, hdef, htim, hstuck, -⟩ := h
  rcases w with ⟨clock, runQueue, woken, stuck, tasks, workers, replies, tokens, timers, hub, feed,
    store, stallTrades, failReads, updates, settings, wallClock, reconcileEvery, budget, deferred⟩
  dsimp only at hrun hdef htim hstuck
  subst hrun hdef htim hstuck
  -- whether the session was marked woken decides the first look at the timers
  cases woken <;> rfl

theorem yieldBudget (h : w.Quiet) : w.yieldBudget.Quiet := by
  rw [h.yieldBudget_eq]
  exact ⟨h.runQueue, h.deferred, h.timers, h.stuck, h.alone⟩

end Quiet

/-! ### Waits that find their answer -/

section Waits

variable {α : Type} {d : Option Nat} {poll : World → World × Option α}

theorem awaitUntil_succ_of_budget_eq_zero (fuel : Nat) (hb : w.budget = 0) :
    w.awaitUntil d poll (fuel + 1) = w.yieldBudget.awaitUntil d poll fuel := by
  rw [awaitUntil, if_pos hb]

theorem awaitUntil_succ_of_poll {w' : World} {a : α} (fuel : Nat) (hb : w.budget ≠ 0)
    (hp : poll w = (w', some a)) :
    w.awaitUntil d poll (fuel + 1) = ((w'.disarm 0).spend, some a) := by
  rw [awaitUntil, if_neg hb, hp]

/-- In a quiet world a wait whose look finds its answer ends with it, renewing the budget first
    if it was spent. -/
theorem Quiet.awaitUntil {a : α} {f : ScriptedFeed} (h : w.Quiet)
    (hp : ∀ v : World, v.Quiet → v.feed = w.feed → v.budget ≠ 0 →
      ∃ v', poll v = (v', some a) ∧ v'.Quiet ∧ v'.feed = f) (fuel : Nat) :
    ∃ w', w.awaitUntil d poll (fuel + 2) = (w', some a) ∧ w'.Quiet ∧ w'.feed = f := by
  by_cases hb : w.budget = 0
  · -- the budget is renewed, then the look succeeds
    have hy := h.yieldBudget
    have hyb : w.yieldBudget.budget ≠ 0 := by simp [h.yieldBudget_eq, runBudget]
    obtain ⟨v', hv, hq, hf⟩ := hp _ hy (by simp [h.yieldBudget_eq]) hyb
    rw [awaitUntil_succ_of_budget_eq_zero _ hb, awaitUntil_succ_of_poll _ hyb hv]
    exact ⟨_, rfl, (hq.disarm 0).spend, hf⟩
  · obtain ⟨v', hv, hq, hf⟩ := hp w h rfl hb
    rw [awaitUntil_succ_of_poll _ hb hv]
    exact ⟨_, rfl, (hq.disarm 0).spend, hf⟩

end Waits

/-! ### Delivering to streams with room -/

theorem pushFeed_eq_foldl (w : World) (s : Symbol) (x : FeedItem) :
    w.pushFeed s x = (w.feed.prune s).2.foldl (deliverTo x) ({ w with feed := (w.feed.prune s).1 }, 0) :=
  rfl

/-- A look at a stream with room takes a slot and fills it. -/
theorem Quiet.offerStream {i : Nat} {q : Queue FeedItem} {x : FeedItem} (h : w.Quiet)
    (hi : w.feed.streams[i]? = some q) (hq : q.Ready) :
    ∃ v, w.offerStream i x = (v, some true) ∧ v.Quiet ∧
      v.feed = w.feed.modifyStream i fun _ => q.filled x := by
  have hres : w.reserveStream i 0 =
      (w.modifyStream i fun _ => { q with free := q.free - 1 }, .granted) := by
    simp only [reserveStream, hi, Queue.reserve_of_ready hq]
  have hget : (w.modifyStream i fun _ => { q with free := q.free - 1 }).feed.streams[i]? =
      some { q with free := q.free - 1 } := by
    simp [Array.getElem?_modify, hi]
  refine ⟨((w.modifyStream i fun _ => { q with free := q.free - 1 }).modifyStream i
      fun _ => (Queue.push { q with free := q.free - 1 } x).1).wakeAll
      (Queue.push { q with free := q.free - 1 } x).2, ?_,
    ((h.modifyStream _ _).modifyStream _ _).wakeAll _, ?_⟩
  · rw [World.offerStream, hres]
    dsimp only
    rw [pushStream, hget]
    dsimp only
    rw [if_pos hq.receiverOpen]
  · simp only [wakeAll_feed, modifyStream_feed, Queue.push_fst_of_free,
      ScriptedFeed.modifyStream_modifyStream_const]

/-- Delivering to a stream with room fills it and counts it. -/
theorem Quiet.deliverTo {i : Nat} {q : Queue FeedItem} {x : FeedItem} (h : w.Quiet)
    (hi : w.feed.streams[i]? = some q) (hq : q.Ready) (n : Nat) :
    ∃ v, World.deliverTo x (w, n) i = (v, n + 1) ∧ v.Quiet ∧
      v.feed = w.feed.modifyStream i fun _ => q.filled x := by
  obtain ⟨v, hv, hvq, hvf⟩ := h.awaitUntil (d := none)
    (fun u hu hfu _ => (hu.offerStream (by rw [hfu]; exact hi) hq).imp fun _ hv =>
      ⟨hv.1, hv.2.1, by rw [hv.2.2, hfu]⟩) 9998
  refine ⟨v, ?_, hvq, hvf⟩
  simp only [World.deliverTo, show waitLimit = 9998 + 2 from rfl, hv]

/-- Delivering `x` to distinct streams with room, one after the other, fills each of them and
    counts them all; nothing but the streams changes. -/
theorem Quiet.foldl_deliverTo {x : FeedItem} :
    ∀ (L : List Nat) (v : World) (n : Nat), v.Quiet → L.Nodup →
      (∀ i ∈ L, ∃ q, v.feed.streams[i]? = some q ∧ q.Ready) →
      ∃ v', L.foldl (World.deliverTo x) (v, n) = (v', n + L.length) ∧ v'.Quiet ∧
        v'.feed = { v.feed with streams := v'.feed.streams } ∧
        ∀ j, v'.feed.streams[j]? = (v.feed.streams[j]?).map fun q => if j ∈ L then q.filled x else q
  | [], v, n, hv, _, _ => ⟨v, rfl, hv, rfl, fun j => by cases v.feed.streams[j]? <;> rfl⟩
  | i :: L, v, n, hv, hL, hready => by
    obtain ⟨q, hi, hq⟩ := hready i List.mem_cons_self
    obtain ⟨v₁, hv₁, hq₁, hf₁⟩ := hv.deliverTo hi hq n
    have hiL : i ∉ L := (List.nodup_cons.1 hL).1
    -- the streams still to fill are untouched by filling stream `i`
    have hready₁ : ∀ j ∈ L, ∃ q, v₁.feed.streams[j]? = some q ∧ q.Ready := by
      intro j hj
      have hji : i ≠ j := fun h => hiL (h ▸ hj)
      simpa [hf₁, Array.getElem?_modify, hji] using hready j (List.mem_cons_of_mem _ hj)
    obtain ⟨v', hfold, hq', hf', hs'⟩ :=
      Quiet.foldl_deliverTo L v₁ (n + 1) hq₁ (List.nodup_cons.1 hL).2 hready₁
    refine ⟨v', ?_, hq', ?_, fun j => ?_⟩
    · rw [List.foldl_cons, hv₁, hfold, List.length_cons, Nat.add_right_comm, Nat.add_assoc]
    · rw [hf', hf₁]
      rfl
    · rw [hs', hf₁, ScriptedFeed.streams_modifyStream, Array.getElem?_modify]
      by_cases hji : i = j
      · subst hji
        simp [hi, hiL]
      · simp [hji, Ne.symm hji]

/-- Pushing `x` for symbol `s` in a quiet world, when the streams the feed holds for `s` with a
    reader are distinct and have room: each of them takes `x`, their number is returned, the
    feed forgets the streams without a reader, and nothing else changes. -/
theorem Quiet.pushFeed {s : Symbol} {x : FeedItem} (h : w.Quiet)
    (hnodup : ((w.feed.held s).filter w.feed.isOpen).Nodup)
    (hready : ∀ i ∈ (w.feed.held s).filter w.feed.isOpen,
      ∃ q, w.feed.streams[i]? = some q ∧ q.Ready) :
    ∃ v, w.pushFeed s x = (v, ((w.feed.held s).filter w.feed.isOpen).length) ∧ v.Quiet ∧
      v.feed = { (w.feed.prune s).1 with streams := v.feed.streams } ∧
      ∀ j, v.feed.streams[j]? = (w.feed.streams[j]?).map fun q =>
        if j ∈ (w.feed.held s).filter w.feed.isOpen then q.filled x else q := by
  have hprune : (w.feed.prune s).1.streams = w.feed.streams := by
    unfold ScriptedFeed.prune
    split_ifs <;> rfl
  obtain ⟨v, hfold, hq, hf, hs⟩ := Quiet.foldl_deliverTo ((w.feed.prune s).2)
    { w with feed := (w.feed.prune s).1 } 0 (h.setFeed _) hnodup
    (fun i hi => by simpa [hprune] using hready i hi)
  refine ⟨v, ?_, hq, hf, fun j => ?_⟩
  · rw [pushFeed_eq_foldl, hfold, Nat.zero_add]
    rfl
  · rw [hs j]
    simp only [hprune]
    rfl

/-! ### Ending a symbol's streams -/

/-- One stream of a symbol's closing, as `ScriptedFeed.close` makes it. -/
def closeStep (acc : ScriptedFeed × List TaskId) (i : Nat) : ScriptedFeed × List TaskId :=
  match acc.1.streams[i]? with
  | some q =>
    let (q', ws) := q.closeSender
    (acc.1.modifyStream i fun _ => q', acc.2 ++ ws)
  | none => acc

theorem close_eq_foldl (f : ScriptedFeed) (s : Symbol) :
    f.close s = (f.held s).foldl closeStep ({ f with senders := f.senders.filter (·.1 != s) }, []) :=
  rfl

/-- Closing streams one after the other ends each of them, whatever was ended before. -/
theorem foldl_closeStep :
    ∀ (L : List Nat) (acc : ScriptedFeed × List TaskId),
      (L.foldl closeStep acc).1 = { acc.1 with streams := (L.foldl closeStep acc).1.streams } ∧
      ∀ j, (L.foldl closeStep acc).1.streams[j]? =
        (acc.1.streams[j]?).map fun q => if j ∈ L then q.ended else q
  | [], acc => ⟨rfl, fun j => by simp⟩
  | i :: L, acc => by
    obtain ⟨hf, hs⟩ := foldl_closeStep L (closeStep acc i)
    rw [List.foldl_cons]
    cases hi : acc.1.streams[i]? with
    | none =>
      have hstep : closeStep acc i = acc := by simp [closeStep, hi]
      rw [hstep] at hf hs ⊢
      refine ⟨hf, fun j => ?_⟩
      rw [hs j]
      by_cases hji : j = i
      · subst hji
        simp [hi]
      · simp [hji]
    | some q =>
      have hstep : (closeStep acc i).1 = acc.1.modifyStream i fun _ => q.ended := by
        simp [closeStep, hi, Queue.closeSender_fst]
      refine ⟨?_, fun j => ?_⟩
      · rw [hf, hstep]
        rfl
      rw [hs j, hstep, ScriptedFeed.streams_modifyStream, Array.getElem?_modify]
      by_cases hji : i = j
      · subst hji
        by_cases hiL : i ∈ L <;> simp [hi, hiL]
      · simp [hji, Ne.symm hji]

/-- Closing symbol `s` in a quiet world ends every stream the feed held for `s`, forgets them,
    and changes nothing else. -/
theorem Quiet.closeFeed (h : w.Quiet) (s : Symbol) :
    (w.closeFeed s).Quiet ∧
      (w.closeFeed s).feed = { w.feed with
        senders := w.feed.senders.filter (·.1 != s), streams := (w.closeFeed s).feed.streams } ∧
      ∀ j, (w.closeFeed s).feed.streams[j]? =
        (w.feed.streams[j]?).map fun q => if j ∈ w.feed.held s then q.ended else q := by
  obtain ⟨hf, hs⟩ := foldl_closeStep (w.feed.held s)
    ({ w.feed with senders := w.feed.senders.filter (·.1 != s) }, [])
  simp only [World.closeFeed, close_eq_foldl, wakeAll_feed]
  exact ⟨(h.setFeed _).wakeAll _, hf, hs⟩

end World

end RobotTrading
