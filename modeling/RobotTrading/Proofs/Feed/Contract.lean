import Mathlib
import RobotTrading.Proofs.Feed.Quiet
import RobotTrading.Proofs.Feed.Senders
import RobotTrading.Proofs.Feed.Spec

/-!
# The scripted feed meets its contract

A script drives the feed alone, so the world stays quiet: the session is the only task, and each
delivery goes through at once while the receivers have room. The tie `World.Follows` says that
stream `i` carries receiver `i` of the contract, that the feed holds for each symbol the streams
of its live receivers, perhaps with some whose reader has gone, and that its counts are the
contract's. Every operation keeps the tie and answers as the contract does, so every script that
never fills a receiver answers as the contract does.

The contract holds for the capacities a queue can have. Past `Queue.slotLimit` no stream can be
made and a subscription is refused instead.

## Main definitions

* `Queue.Carries`, `ScriptedFeed.Realizes`, `World.Follows` : the tie between the feed and the
  contract.

## Main statements

* `ScriptedFeed.Realizes.setAt`, `ScriptedFeed.Realizes.map` : changes of one stream, or of all
  of them in place, that keep the tie.
* `World.Follows.step` : one operation keeps the tie and answers as the contract does.
* `World.feedRun_eq_spec` : a script that never fills a receiver answers as the contract does.
* `World.subscribe_refused_past_slotLimit` : past the largest queue, a subscription is refused.
-/

namespace RobotTrading

/-! ### Streams that carry receivers -/

namespace Queue

/-- How a stream of `cap` slots carries a receiver of the contract: its reader is there unless
    the receiver was dropped and nobody waits for a slot; while the reader is there the stream
    holds the pending items, keeps its sending side until the receiver ended, and its free slots
    and items make up the capacity. -/
structure Carries (q : Queue FeedItem) (cap : Nat) (r : FeedSpec.Receiver) : Prop where
  receiverOpen : q.receiverOpen = !r.dropped
  waiting : q.waiting = []
  granted : q.granted = []
  items : r.dropped = false → q.items = r.pending
  senderOpen : r.dropped = false → q.senderOpen = !r.ended
  slots : r.dropped = false → q.free + q.items.length = cap

namespace Carries

variable {q : Queue FeedItem} {cap : Nat} {r : FeedSpec.Receiver}

theorem new (s : Symbol) (hcap : 0 < cap) :
    (Queue.new cap : Queue FeedItem).Carries cap ⟨s, [], false, false⟩ :=
  ⟨rfl, rfl, rfl, fun _ => rfl, fun _ => rfl, fun _ => by simp [Queue.new]; omega⟩

/-- A live receiver with room is carried by a stream that a lone sender fills at once. -/
theorem ready (h : q.Carries cap r) (hd : r.dropped = false) (hroom : r.pending.length < cap) :
    q.Ready where
  receiverOpen := by rw [h.receiverOpen, hd]; rfl
  granted := h.granted
  waiting := h.waiting
  free := by
    have := h.slots hd
    rw [h.items hd] at this
    omega

theorem filled (h : q.Carries cap r) (hd : r.dropped = false) (hroom : r.pending.length < cap)
    (x : FeedItem) : (q.filled x).Carries cap { r with pending := r.pending ++ [x] } where
  receiverOpen := h.receiverOpen
  waiting := h.waiting
  granted := h.granted
  items _ := by simp [Queue.filled, h.items hd]
  senderOpen _ := h.senderOpen hd
  slots _ := by
    have := h.slots hd
    simp only [Queue.filled, List.length_append, List.length_singleton, h.items hd] at this ⊢
    omega

theorem ended_live (h : q.Carries cap r) :
    q.ended.Carries cap { r with ended := true } :=
  ⟨h.receiverOpen, h.waiting, h.granted, h.items, fun _ => rfl, h.slots⟩

theorem ended_dropped (h : q.Carries cap r) (hd : r.dropped = true) : q.ended.Carries cap r :=
  ⟨h.receiverOpen, h.waiting, h.granted, by simp [hd], by simp [hd], by simp [hd]⟩

theorem closeReceiver (h : q.Carries cap r) :
    q.closeReceiver.1.Carries cap { r with dropped := true } :=
  ⟨rfl, rfl, h.granted, nofun, nofun, nofun⟩

/-- A reader takes from the stream what it takes from the receiver, and wakes nobody. -/
theorem recv (h : q.Carries cap r) (hd : r.dropped = false) :
    (q.recv 0).1.Carries cap r.take.1 ∧ (q.recv 0).2.1 = r.take.2 ∧ (q.recv 0).2.2 = [] := by
  have hi := h.items hd
  unfold FeedSpec.Receiver.take
  cases hp : r.pending with
  | cons x rest =>
    -- the head goes, and its slot comes back free since nobody waits
    have hq : q.recv 0 = ({ q with items := rest, free := q.free + 1 }, .item x, []) := by
      simp [Queue.recv, Queue.release, hi, hp, h.waiting]
    have := h.slots hd
    rw [hi, hp, List.length_cons] at this
    rw [hq]
    exact ⟨⟨h.receiverOpen, h.waiting, h.granted, fun _ => rfl, h.senderOpen,
      fun _ => by simp only at this ⊢; omega⟩, rfl, rfl⟩
  | nil =>
    cases he : r.ended with
    | false =>
      -- nothing yet: the reader waits
      have hq : q.recv 0 = ({ q with receiverWaker := some 0 }, .empty, []) := by
        simp [Queue.recv, hi, hp, h.senderOpen hd, he]
      rw [hq]
      exact ⟨⟨h.receiverOpen, h.waiting, h.granted, h.items, h.senderOpen, h.slots⟩, rfl, rfl⟩
    | true =>
      have hq : q.recv 0 = (q, .ended, []) := by
        simp [Queue.recv, hi, hp, h.senderOpen hd, he]
      rw [hq]
      exact ⟨h, rfl, rfl⟩

end Carries

end Queue

/-! ### The tie between the feed and the contract -/

namespace ScriptedFeed

/-- The feed realizes the contract: the capacities agree and a queue can have it, the armed
    failures agree, stream `i` carries receiver `i`, the feed holds for each symbol distinct
    streams of its receivers that have not ended, among them those of all its live receivers, and
    the subscription counts agree. -/
structure Realizes (f : ScriptedFeed) (σ : FeedSpec) : Prop where
  capacity : f.capacity = σ.capacity
  capacity_le : σ.capacity ≤ Queue.slotLimit
  armed : f.failSubscribes = σ.armed
  size : f.streams.size = σ.receivers.length
  carries : ∀ (i : Nat) (q : Queue FeedItem) (r : FeedSpec.Receiver), f.streams[i]? = some q →
    σ.receivers[i]? = some r → q.Carries σ.capacity r
  held : ∀ s i, i ∈ f.held s → ∃ r, σ.receivers[i]? = some r ∧ r.symbol = s ∧ r.ended = false
  live : ∀ s i r, σ.receivers[i]? = some r → r.isLive s = true → i ∈ f.held s
  nodup : ∀ s, (f.held s).Nodup
  count : ∀ s, f.count s = σ.opened s

namespace Realizes

variable {f : ScriptedFeed} {σ : FeedSpec}

theorem stream_of_receiver (h : f.Realizes σ) {i : Nat} {r : FeedSpec.Receiver}
    (hr : σ.receivers[i]? = some r) : ∃ q, f.streams[i]? = some q ∧ q.Carries σ.capacity r := by
  have hi : i < f.streams.size := h.size ▸ (List.getElem?_eq_some_iff.1 hr).1
  exact ⟨f.streams[i], Array.getElem?_eq_getElem hi, h.carries i _ r (Array.getElem?_eq_getElem hi) hr⟩

theorem receiver_of_stream (h : f.Realizes σ) {i : Nat} {q : Queue FeedItem}
    (hq : f.streams[i]? = some q) : ∃ r, σ.receivers[i]? = some r ∧ q.Carries σ.capacity r := by
  have hi : i < σ.receivers.length := h.size ▸ (Array.getElem?_eq_some_iff.1 hq).1
  exact ⟨σ.receivers[i], List.getElem?_eq_getElem hi, h.carries i q _ hq (List.getElem?_eq_getElem hi)⟩

/-- The streams a delivery to `s` goes to are those of the live receivers of `s`. -/
theorem mem_live_iff (h : f.Realizes σ) {s : Symbol} {i : Nat} :
    i ∈ (f.held s).filter f.isOpen ↔ ∃ r, σ.receivers[i]? = some r ∧ r.isLive s = true := by
  rw [List.mem_filter]
  constructor
  · rintro ⟨hi, ho⟩
    obtain ⟨r, hr, hsym, hend⟩ := h.held s i hi
    obtain ⟨q, hq, hc⟩ := h.stream_of_receiver hr
    have hd : r.dropped = false := by simpa [isOpen, hq, hc.receiverOpen] using ho
    exact ⟨r, hr, FeedSpec.Receiver.isLive_eq_true.2 ⟨hsym, hend, hd⟩⟩
  · rintro ⟨r, hr, hlive⟩
    obtain ⟨-, -, hd⟩ := FeedSpec.Receiver.isLive_eq_true.1 hlive
    obtain ⟨q, hq, hc⟩ := h.stream_of_receiver hr
    exact ⟨h.live s i r hr hlive, by simp [isOpen, hq, hc.receiverOpen, hd]⟩

/-- The open streams of a symbol are its live receivers. -/
theorem openCount_eq (h : f.Realizes σ) (s : Symbol) : f.openCount s = σ.liveCount s :=
  List.length_eq_countP_of_mem_iff _ ((h.nodup s).filter _) fun _ => h.mem_live_iff

theorem withArmed (h : f.Realizes σ) (n : Nat) :
    ({ f with failSubscribes := n } : ScriptedFeed).Realizes { σ with armed := n } :=
  ⟨h.capacity, h.capacity_le, rfl, h.size, h.carries, h.held, h.live, h.nodup, h.count⟩

/-- A subscription with nothing armed opens the next stream for the next receiver. -/
theorem subscribe (h : f.Realizes σ) (h0 : σ.armed = 0) (s : Symbol) :
    (f.subscribe s).1.Realizes { σ with receivers := σ.receivers ++ [⟨s, [], false, false⟩] } ∧
      (f.subscribe s).2 = .stream σ.receivers.length := by
  have hf0 : f.failSubscribes = 0 := h.armed.trans h0
  have hcap : f.capacity ≤ Queue.slotLimit := h.capacity ▸ h.capacity_le
  have heq := subscribe_eq_stream f s hf0 hcap
  have hheld := fun t => held_subscribe f s t hf0 hcap
  have hcount := fun t => count_subscribe f s t hf0 hcap
  -- the new stream and receiver stand at the next place; below it both are as they were
  have hstreams : ∀ j, (f.subscribe s).1.streams[j]? =
      if j = f.streams.size then some (Queue.new σ.capacity) else f.streams[j]? := by
    intro j
    rw [heq, ← h.capacity]
    exact Array.getElem?_push
  have hrecv : ∀ j, (σ.receivers ++ [⟨s, [], false, false⟩])[j]? =
      if j = f.streams.size then some ⟨s, [], false, false⟩ else σ.receivers[j]? := by
    rw [h.size]
    exact List.getElem?_append_singleton _ _
  have hlt : ∀ t i, i ∈ f.held t → i ≠ f.streams.size := fun t i hi hin => by
    obtain ⟨r, hr, -⟩ := h.held t i hi
    have := (List.getElem?_eq_some_iff.1 hr).1
    have := h.size
    omega
  refine ⟨⟨by rw [heq]; exact h.capacity, h.capacity_le, by rw [heq]; exact h.armed,
    by rw [heq]; simp [h.size], ?carries, ?held, ?live, ?nodup, ?count⟩, by rw [heq, h.size]⟩
  case carries =>
    intro j q r hq hr
    rw [hstreams] at hq
    rw [hrecv] at hr
    split_ifs at hq hr with hj
    · cases hq
      cases hr
      exact Queue.Carries.new s σ.capacity_pos
    · exact h.carries j q r hq hr
  case held =>
    intro t i hi
    rw [hheld] at hi
    rw [hrecv]
    split_ifs at hi with ht
    · rcases List.mem_append.1 hi with hi | hi
      · obtain ⟨r, hr, hsym, hend⟩ := h.held s i hi
        exact ⟨r, by rw [if_neg (hlt s i hi), hr], ht ▸ hsym, hend⟩
      · rw [List.mem_singleton.1 hi, if_pos rfl]
        exact ⟨_, rfl, ht.symm, rfl⟩
    · obtain ⟨r, hr, hsym, hend⟩ := h.held t i hi
      exact ⟨r, by rw [if_neg (hlt t i hi), hr], hsym, hend⟩
  case live =>
    intro t i r hr hlive
    rw [hrecv] at hr
    rw [hheld]
    split_ifs at hr with hi
    · cases hr
      obtain ⟨rfl, -, -⟩ := FeedSpec.Receiver.isLive_eq_true.1 hlive
      simp [hi]
    · have := h.live t i r hr hlive
      split_ifs with ht
      · exact List.mem_append_left _ (ht ▸ this)
      · exact this
  case nodup =>
    intro t
    rw [hheld]
    split_ifs
    · exact List.nodup_append.2 ⟨h.nodup s, List.pairwise_singleton _ _,
        fun a ha b hb => (List.mem_singleton.1 hb) ▸ hlt s a ha⟩
    · exact h.nodup t
  case count =>
    intro t
    have hc : ∀ t, f.count t = σ.receivers.countP (·.symbol == t) := h.count
    rw [hcount]
    simp only [FeedSpec.opened, List.countP_append, List.countP_singleton, hc]
    by_cases ht : t = s
    · subst ht
      simp
    · simp [ht, Ne.symm ht]

end Realizes

end ScriptedFeed

/-- A pointwise change of an array keeps its size. -/
theorem Array.size_eq_of_getElem?_map {α : Type} {a b : Array α} {g : Nat → α → α}
    (h : ∀ j, a[j]? = (b[j]?).map (g j)) : a.size = b.size := by
  apply Nat.le_antisymm
  · have hb := h b.size
    rw [Array.getElem?_eq_none (Nat.le_refl _), Option.map_none] at hb
    exact Array.getElem?_eq_none_iff.1 hb
  · have ha := h a.size
    rw [Array.getElem?_eq_none (Nat.le_refl _)] at ha
    exact Array.getElem?_eq_none_iff.1 (Option.map_eq_none_iff.1 ha.symm)

namespace ScriptedFeed.Realizes

variable {f : ScriptedFeed} {σ : FeedSpec}

/-- Changing stream `i` and receiver `i` together keeps the tie, when the new stream carries the
    new receiver and the receiver keeps its symbol and end and does not come back to life. -/
theorem setAt (h : f.Realizes σ) {i : Nat} {q q' : Queue FeedItem} {r r' : FeedSpec.Receiver}
    (hq : f.streams[i]? = some q) (hr : σ.receivers[i]? = some r)
    (hc : q'.Carries σ.capacity r') (hsym : r'.symbol = r.symbol) (hend : r'.ended = r.ended)
    (hlive : ∀ t, r'.isLive t = true → r.isLive t = true) :
    (f.modifyStream i fun _ => q').Realizes { σ with receivers := σ.receivers.set i r' } := by
  have hrecv : ∀ j, (σ.receivers.set i r')[j]? = if i = j then some r' else σ.receivers[j]? := by
    intro j
    rw [List.getElem?_set]
    split_ifs with hij
    · rfl
    · subst hij
      exact absurd (List.getElem?_eq_some_iff.1 hr).1 ‹_›
    · rfl
  have hsyms : (σ.receivers.set i r').map (·.symbol) = σ.receivers.map (·.symbol) := by
    refine List.ext_getElem? fun j => ?_
    rw [List.getElem?_map, List.getElem?_map, hrecv]
    split_ifs with hij
    · subst hij
      simp [hr, hsym]
    · rfl
  refine ⟨h.capacity, h.capacity_le, h.armed, by simp [ScriptedFeed.modifyStream, h.size],
    ?carries, ?held, ?live, h.nodup, ?count⟩
  case carries =>
    intro j q₁ r₁ hq₁ hr₁
    rw [ScriptedFeed.streams_modifyStream, Array.getElem?_modify] at hq₁
    rw [hrecv] at hr₁
    split_ifs at hq₁ hr₁ with hij
    · subst hij
      rw [hq] at hq₁
      cases hq₁
      cases hr₁
      exact hc
    · exact h.carries j q₁ r₁ hq₁ hr₁
  case held =>
    intro t j hj
    obtain ⟨r₁, hr₁, hsym₁, hend₁⟩ := h.held t j hj
    rw [hrecv]
    split_ifs with hij
    · subst hij
      rw [hr] at hr₁
      cases hr₁
      exact ⟨r', rfl, hsym.trans hsym₁, hend.trans hend₁⟩
    · exact ⟨r₁, hr₁, hsym₁, hend₁⟩
  case live =>
    intro t j r₁ hr₁ hlive₁
    rw [hrecv] at hr₁
    split_ifs at hr₁ with hij
    · subst hij
      cases hr₁
      exact h.live t i r hr (hlive t hlive₁)
    · exact h.live t j r₁ hr₁ hlive₁
  case count =>
    intro t
    rw [FeedSpec.opened_eq_countP_map]
    simp only [hsyms]
    rw [← FeedSpec.opened_eq_countP_map]
    exact h.count t

/-- Changing every stream and every receiver in place keeps the tie, when each new stream carries
    its new receiver, the receivers keep their symbols, the feed's counts stay, and what it holds
    afterwards agrees with the new receivers. -/
theorem map (h : f.Realizes σ) {f' : ScriptedFeed} {g : Nat → Queue FeedItem → Queue FeedItem}
    {k : FeedSpec.Receiver → FeedSpec.Receiver} (hcap : f'.capacity = f.capacity)
    (harmed : f'.failSubscribes = f.failSubscribes) (hopened : f'.opened = f.opened)
    (hs : ∀ j, f'.streams[j]? = (f.streams[j]?).map (g j)) (hsym : ∀ r, (k r).symbol = r.symbol)
    (hcarries : ∀ j q r, f.streams[j]? = some q → σ.receivers[j]? = some r →
      (g j q).Carries σ.capacity (k r))
    (hheld : ∀ s i, i ∈ f'.held s →
      ∃ r, σ.receivers[i]? = some r ∧ r.symbol = s ∧ (k r).ended = false)
    (hlive : ∀ s i r, σ.receivers[i]? = some r → (k r).isLive s = true → i ∈ f'.held s)
    (hnodup : ∀ s, (f'.held s).Nodup) :
    f'.Realizes { σ with receivers := σ.receivers.map k } := by
  have hrecv : ∀ j, (σ.receivers.map k)[j]? = (σ.receivers[j]?).map k := fun j => List.getElem?_map
  refine ⟨hcap.trans h.capacity, h.capacity_le, harmed.trans h.armed, ?_, ?carries, ?held, ?live,
    hnodup, ?count⟩
  · rw [Array.size_eq_of_getElem?_map hs, h.size, List.length_map]
  case carries =>
    intro j q' r' hq' hr'
    rw [hs] at hq'
    rw [hrecv] at hr'
    obtain ⟨q, hq, rfl⟩ := Option.map_eq_some_iff.1 hq'
    obtain ⟨r, hr, rfl⟩ := Option.map_eq_some_iff.1 hr'
    exact hcarries j q r hq hr
  case held =>
    intro s i hi
    obtain ⟨r, hr, hsym', hend⟩ := hheld s i hi
    exact ⟨k r, by rw [hrecv, hr]; rfl, (hsym r).trans hsym', hend⟩
  case live =>
    intro s i r' hr' hl
    rw [hrecv] at hr'
    obtain ⟨r, hr, rfl⟩ := Option.map_eq_some_iff.1 hr'
    exact hlive s i r hr hl
  case count =>
    intro t
    have hc : f'.count t = f.count t := by simp only [ScriptedFeed.count, hopened]
    rw [hc, h.count, FeedSpec.opened_eq_countP_map, FeedSpec.opened_eq_countP_map, List.map_map]
    simp [Function.comp_def, hsym]

end ScriptedFeed.Realizes

namespace World

/-- The session runs a script on a quiet world whose feed realizes the contract. -/
structure Follows (w : World) (σ : FeedSpec) : Prop where
  quiet : w.Quiet
  feed : w.feed.Realizes σ

/-- The quotes are checked as the contract says: the buy quote first, then the sell quote. -/
theorem ofQuotes_eq_quote (s : Symbol) (buy sell : Decimal) :
    PriceTick.ofQuotes s buy sell = FeedSpec.quote s buy sell := by
  unfold PriceTick.ofQuotes FeedSpec.quote
  cases Price.ofDecimal buy <;> cases Price.ofDecimal sell <;> rfl

theorem dropStream_of_some {w : World} {i : Nat} {q : Queue FeedItem}
    (hq : w.feed.streams[i]? = some q) :
    w.dropStream i = (w.modifyStream i fun _ => q.closeReceiver.1).wakeAll q.closeReceiver.2.2 := by
  simp only [dropStream, hq]

namespace Follows

variable {w : World} {σ : FeedSpec}

theorem withArmed (h : w.Follows σ) (n : Nat) :
    ({ w with feed := { w.feed with failSubscribes := n } } : World).Follows { σ with armed := n } :=
  ⟨h.quiet.setFeed _, h.feed.withArmed n⟩

/-- A subscription takes an armed failure, or opens the next stream for the next receiver. -/
theorem subscribe (h : w.Follows σ) (s : Symbol) :
    (w.feedStep (.subscribe s)).1.Follows (σ.step (.subscribe s)).1 ∧
      (w.feedStep (.subscribe s)).2 = (σ.step (.subscribe s)).2 := by
  by_cases ha : 0 < σ.armed
  · have hf : 0 < w.feed.failSubscribes := h.feed.armed ▸ ha
    simp only [feedStep, FeedSpec.step, if_pos ha, ScriptedFeed.subscribe_of_pos _ _ hf]
    refine ⟨?_, trivial⟩
    rw [h.feed.armed]
    exact h.withArmed _
  · obtain ⟨hr, hs⟩ := h.feed.subscribe (Nat.eq_zero_of_not_pos ha) s
    simp only [feedStep, FeedSpec.step, if_neg ha, hs]
    exact ⟨⟨h.quiet.setFeed _, hr⟩, trivial⟩

/-- Delivering to the live receivers of `s`, when they have room, reaches each of them once and
    answers their number. -/
theorem pushFeed (h : w.Follows σ) {s : Symbol} (hroom : σ.room s = true) (x : FeedItem) :
    ∃ v, w.pushFeed s x = (v, σ.liveCount s) ∧ v.Follows (σ.deliver s x) := by
  have hf := h.feed
  have hready : ∀ i ∈ (w.feed.held s).filter w.feed.isOpen,
      ∃ q, w.feed.streams[i]? = some q ∧ q.Ready := by
    intro i hi
    obtain ⟨r, hr, hlive⟩ := hf.mem_live_iff.1 hi
    obtain ⟨q, hq, hc⟩ := hf.stream_of_receiver hr
    exact ⟨q, hq, hc.ready (FeedSpec.Receiver.isLive_eq_true.1 hlive).2.2
      (FeedSpec.pending_lt_of_room hroom hr hlive)⟩
  obtain ⟨v, hv, hq, hfeed, hs⟩ := h.quiet.pushFeed ((hf.nodup s).filter _) hready
  have hheld : ∀ t, v.feed.held t =
      if t = s then (w.feed.held s).filter w.feed.isOpen else w.feed.held t := by
    intro t
    rw [hfeed]
    exact ScriptedFeed.held_prune _ _ _
  refine ⟨v, by rw [hv]; exact congrArg _ (hf.openCount_eq s), hq,
    hf.map (by rw [hfeed, ScriptedFeed.prune_fst]) (by rw [hfeed, ScriptedFeed.prune_fst])
      (by rw [hfeed, ScriptedFeed.prune_fst]) hs (fun _ => FeedSpec.Receiver.symbol_offer)
      ?carries ?held ?live ?nodup⟩
  case carries =>
    intro j q r hqj hr
    have hc := hf.carries j q r hqj hr
    by_cases hlive : r.isLive s
    · -- a live receiver takes `x`, and so does its stream
      rw [if_pos (hf.mem_live_iff.2 ⟨r, hr, hlive⟩), FeedSpec.Receiver.offer, if_pos hlive]
      exact hc.filled (FeedSpec.Receiver.isLive_eq_true.1 hlive).2.2
        (FeedSpec.pending_lt_of_room hroom hr hlive) x
    · have hj : j ∉ (w.feed.held s).filter w.feed.isOpen := fun hj => by
        obtain ⟨r₁, hr₁, hlive₁⟩ := hf.mem_live_iff.1 hj
        rw [hr] at hr₁
        cases hr₁
        exact hlive hlive₁
      rw [if_neg hj, FeedSpec.Receiver.offer, if_neg hlive]
      exact hc
  case held =>
    intro t i hi
    rw [hheld] at hi
    have hi' : i ∈ w.feed.held t := by
      split_ifs at hi with ht
      · exact ht ▸ (List.mem_filter.1 hi).1
      · exact hi
    obtain ⟨r, hr, hsym, hend⟩ := hf.held t i hi'
    exact ⟨r, hr, hsym, by simp [hend]⟩
  case live =>
    intro t i r hr hlive
    rw [FeedSpec.Receiver.isLive_offer] at hlive
    rw [hheld]
    split_ifs with ht
    · subst ht
      exact hf.mem_live_iff.2 ⟨r, hr, hlive⟩
    · exact hf.live t i r hr hlive
  case nodup =>
    intro t
    rw [hheld]
    split_ifs
    · exact (hf.nodup s).filter _
    · exact hf.nodup t

/-- Closing `s` ends its live receivers; the feed forgets its streams of `s`. -/
theorem closeFeed (h : w.Follows σ) (s : Symbol) : (w.closeFeed s).Follows (σ.close s) := by
  have hf := h.feed
  obtain ⟨hq, hfeed, hs⟩ := h.quiet.closeFeed s
  have hheld : ∀ t, (w.closeFeed s).feed.held t = if t = s then [] else w.feed.held t := by
    intro t
    rw [hfeed]
    exact ScriptedFeed.held_close _ _ _ _
  refine ⟨hq, hf.map (by rw [hfeed]) (by rw [hfeed]) (by rw [hfeed]) hs
    (fun _ => FeedSpec.Receiver.symbol_endFor) ?carries ?held ?live ?nodup⟩
  case carries =>
    intro j q r hqj hr
    have hc := hf.carries j q r hqj hr
    by_cases hj : j ∈ w.feed.held s
    · -- a stream held for `s` ends; its receiver ends with it unless its reader has gone
      rw [if_pos hj]
      obtain ⟨r₁, hr₁, hsym, hend⟩ := hf.held s j hj
      rw [hr] at hr₁
      cases hr₁
      cases hd : r.dropped
      · have hlive : r.isLive s = true := FeedSpec.Receiver.isLive_eq_true.2 ⟨hsym, hend, hd⟩
        rw [FeedSpec.Receiver.endFor, if_pos hlive]
        exact hc.ended_live
      · rw [FeedSpec.Receiver.endFor_of_isLive_eq_false (by simp [FeedSpec.Receiver.isLive, hd])]
        exact hc.ended_dropped hd
    · -- a stream not held for `s` is no live receiver of `s`
      have hlive : r.isLive s = false :=
        Bool.eq_false_iff.2 fun hl => hj (hf.live s j r hr hl)
      rw [if_neg hj, FeedSpec.Receiver.endFor_of_isLive_eq_false hlive]
      exact hc
  case held =>
    intro t i hi
    rw [hheld] at hi
    split_ifs at hi with ht
    · simp at hi
    · obtain ⟨r, hr, hsym, hend⟩ := hf.held t i hi
      have hlive : r.isLive s = false := by simp [FeedSpec.Receiver.isLive, hsym, ht]
      exact ⟨r, hr, hsym, by rw [FeedSpec.Receiver.endFor_of_isLive_eq_false hlive, hend]⟩
  case live =>
    intro t i r hr hlive
    rw [FeedSpec.Receiver.isLive_endFor, Bool.and_eq_true, Bool.not_eq_true'] at hlive
    rw [hheld]
    split_ifs with ht
    · subst ht
      simp [hlive.1] at hlive
    · exact hf.live t i r hr hlive.1
  case nodup =>
    intro t
    rw [hheld]
    split_ifs
    · exact List.nodup_nil
    · exact hf.nodup t

/-- A reader that goes away is dropped from its receiver. -/
theorem dropStream (h : w.Follows σ) (i : Nat) : (w.dropStream i).Follows (σ.drop i) := by
  cases hq : w.feed.streams[i]? with
  | none =>
    have hr : σ.receivers[i]? = none := by
      rw [List.getElem?_eq_none_iff, ← h.feed.size]
      exact Array.getElem?_eq_none_iff.1 hq
    simp only [World.dropStream, FeedSpec.drop, hq, hr]
    exact h
  | some q =>
    obtain ⟨r, hr, hc⟩ := h.feed.receiver_of_stream hq
    rw [dropStream_of_some hq]
    simp only [FeedSpec.drop, hr]
    refine ⟨(h.quiet.modifyStream _ _).wakeAll _, ?_⟩
    rw [wakeAll_feed, modifyStream_feed]
    exact h.feed.setAt hq hr hc.closeReceiver rfl rfl fun t hl => by
      simp [FeedSpec.Receiver.isLive] at hl

/-- A reader takes from its stream what the contract says it takes from its receiver. -/
theorem recvStream (h : w.Follows σ) (i : Nat) :
    (w.recvStream i).1.Follows (σ.recv i).1 ∧ (w.recvStream i).2 = (σ.recv i).2 := by
  cases hq : w.feed.streams[i]? with
  | none =>
    have hr : σ.receivers[i]? = none := by
      rw [List.getElem?_eq_none_iff, ← h.feed.size]
      exact Array.getElem?_eq_none_iff.1 hq
    simp only [World.recvStream, FeedSpec.recv, hq, hr]
    exact ⟨h, trivial⟩
  | some q =>
    obtain ⟨r, hr, hc⟩ := h.feed.receiver_of_stream hq
    cases hd : r.dropped
    · have ho : q.receiverOpen = true := by rw [hc.receiverOpen, hd]; rfl
      obtain ⟨hc', hgot, hws⟩ := hc.recv hd
      simp only [World.recvStream, FeedSpec.recv, hq, hr, ho, hd, if_true, Bool.false_eq_true,
        if_false, hgot, hws]
      refine ⟨⟨(h.quiet.modifyStream _ _).wakeAll _, ?_⟩, trivial⟩
      rw [wakeAll_feed, modifyStream_feed]
      exact h.feed.setAt hq hr hc' FeedSpec.Receiver.symbol_take FeedSpec.Receiver.ended_take
        fun t hl => by simpa [FeedSpec.Receiver.isLive] using hl
    · have ho : q.receiverOpen = false := by rw [hc.receiverOpen, hd]; rfl
      simp only [World.recvStream, FeedSpec.recv, hq, hr, ho, hd, if_true, Bool.false_eq_true,
        if_false]
      exact ⟨h, trivial⟩

/-- **One operation** keeps the tie and answers as the contract does, when a delivery it makes
    finds room. -/
theorem step (h : w.Follows σ) (op : FeedOp) (hfit : σ.fits op = true) :
    (w.feedStep op).1.Follows (σ.step op).1 ∧ (w.feedStep op).2 = (σ.step op).2 := by
  cases op with
  | subscribe s => exact h.subscribe s
  | push s buy sell =>
    simp only [feedStep, FeedSpec.step, ofQuotes_eq_quote]
    cases hquote : FeedSpec.quote s buy sell with
    | error e => exact ⟨h, rfl⟩
    | ok t =>
      have hroom : σ.room s = true := by simpa [FeedSpec.fits, hquote] using hfit
      obtain ⟨v, hv, hfv⟩ := h.pushFeed hroom (.tick t)
      dsimp only
      rw [hv]
      exact ⟨hfv, rfl⟩
  | fail s reason =>
    obtain ⟨v, hv, hfv⟩ := h.pushFeed (s := s) hfit (.failure reason)
    have hfail : w.failFeed s reason = (v.closeFeed s, σ.liveCount s) := by
      simp only [World.failFeed, hv]
    simp only [feedStep, FeedSpec.step, hfail]
    exact ⟨hfv.closeFeed s, trivial⟩
  | close s => exact ⟨h.closeFeed s, rfl⟩
  | failNext n => exact ⟨h.withArmed n, rfl⟩
  | drop i => exact ⟨h.dropStream i, rfl⟩
  | recv i =>
    obtain ⟨hf, hr⟩ := h.recvStream i
    exact ⟨hf, congrArg FeedReply.received hr⟩
  | counts s =>
    refine ⟨h, ?_⟩
    simp only [feedStep, FeedSpec.step, h.feed.openCount_eq, h.feed.count]

/-- A whole script answers as the contract does, when none of its deliveries finds a live
    receiver full. -/
theorem feedRun (h : w.Follows σ) (ops : List FeedOp) (hfit : σ.fitsAll ops = true) :
    w.feedRun ops = σ.run ops := by
  induction ops generalizing w σ with
  | nil => rfl
  | cons op ops ih =>
    rw [FeedSpec.fitsAll, Bool.and_eq_true] at hfit
    obtain ⟨hstep, hreply⟩ := h.step op hfit.1
    rw [World.feedRun, FeedSpec.run, hreply, ih hstep hfit.2]

end Follows

/-- A new world with a new feed follows the contract, for a capacity a queue can have. -/
theorem follows_new (settings : TradingSettings) (store : Store) (updates : UpdateRing)
    (wallClock : Instant) (every : Nat) {capacity : Nat} (hcap : capacity ≤ Queue.slotLimit) :
    (World.new settings store (ScriptedFeed.new capacity) updates wallClock every).Follows
      (FeedSpec.init capacity) where
  quiet := ⟨rfl, rfl, rfl, rfl, rfl⟩
  feed :=
    { capacity := rfl
      capacity_le := Nat.max_le.2 ⟨by decide, hcap⟩
      armed := rfl
      size := rfl
      carries := fun i q r _ hr => by simp [FeedSpec.init] at hr
      held := fun s i hi => by simp [ScriptedFeed.held, ScriptedFeed.new, World.new] at hi
      live := fun s i r hr _ => by simp [FeedSpec.init] at hr
      nodup := fun s => by simp [ScriptedFeed.held, ScriptedFeed.new, World.new]
      count := fun s => rfl }

/-- **The scripted feed meets its contract.** For every capacity a queue can have and every
    script of subscriptions, armed failures, pushes, failures, closes, dropped readers, reads and
    counts in which no delivery finds a live receiver full, the feed, driven by the session of a
    new world, answers exactly as the contract `FeedSpec` does. -/
theorem feedRun_eq_spec (settings : TradingSettings) (store : Store) (updates : UpdateRing)
    (wallClock : Instant) (every capacity : Nat) (ops : List FeedOp)
    (hcap : capacity ≤ Queue.slotLimit) (hfits : (FeedSpec.init capacity).fitsAll ops = true) :
    (World.new settings store (ScriptedFeed.new capacity) updates wallClock every).feedRun ops =
      (FeedSpec.init capacity).run ops :=
  (follows_new settings store updates wallClock every hcap).feedRun ops hfits

/-- Two readers of `AAPL`, one of which goes away; then a tick and a failure are pushed, and the
    other reader takes the tick, the failure and the end. -/
theorem feedRun_eq_spec_sample :
    64 ≤ Queue.slotLimit ∧
      (FeedSpec.init 64).fitsAll
        [.subscribe ⟨"AAPL"⟩, .subscribe ⟨"AAPL"⟩, .drop 1,
          .push ⟨"AAPL"⟩ (Decimal.ofNat64 95 (by decide)) (Decimal.ofNat64 115 (by decide)),
          .fail ⟨"AAPL"⟩ "connection reset", .recv 0, .recv 0, .recv 0, .counts ⟨"AAPL"⟩] = true ∧
      (World.new ⟨.oneLegPerTick, 8, true⟩ Store.empty (ScriptedFeed.new 64) (UpdateRing.new 1024)
          ⟨0, 0⟩ 1000000).feedRun
        [.subscribe ⟨"AAPL"⟩, .subscribe ⟨"AAPL"⟩, .drop 1,
          .push ⟨"AAPL"⟩ (Decimal.ofNat64 95 (by decide)) (Decimal.ofNat64 115 (by decide)),
          .fail ⟨"AAPL"⟩ "connection reset", .recv 0, .recv 0, .recv 0, .counts ⟨"AAPL"⟩] =
        (FeedSpec.init 64).run
          [.subscribe ⟨"AAPL"⟩, .subscribe ⟨"AAPL"⟩, .drop 1,
            .push ⟨"AAPL"⟩ (Decimal.ofNat64 95 (by decide)) (Decimal.ofNat64 115 (by decide)),
            .fail ⟨"AAPL"⟩ "connection reset", .recv 0, .recv 0, .recv 0, .counts ⟨"AAPL"⟩] :=
  ⟨by decide, by decide, feedRun_eq_spec _ _ _ _ _ 64 _ (by decide) (by decide)⟩

/-- Past the largest queue no stream can be made: a subscription is refused and not counted,
    where the contract opens a receiver. -/
theorem subscribe_refused_past_slotLimit :
    (World.new ⟨.oneLegPerTick, 8, true⟩ Store.empty (ScriptedFeed.new (2 ^ 61))
        (UpdateRing.new 1024) ⟨0, 0⟩ 1000000).feedRun [.subscribe ⟨"A"⟩, .counts ⟨"A"⟩] =
      [.subscribed .refused, .counts 0 0] ∧
    (FeedSpec.init (2 ^ 61)).run [.subscribe ⟨"A"⟩, .counts ⟨"A"⟩] =
      [.subscribed (.stream 0), .counts 1 1] :=
  ⟨rfl, rfl⟩

end World

end RobotTrading
