import Mathlib.Data.List.FinRange
import Mathlib.Tactic.SplitIfs
import RobotTrading.Feed.Scripted

/-!
# What the scripted feed holds for each symbol

The feed keeps two association lists keyed by symbol, changed through `ScriptedFeed.assocSet`:
the streams it still sends to and the number of subscriptions made. Read through
`ScriptedFeed.held` and `ScriptedFeed.count`, a subscription appends its stream to the list of
its symbol and counts it, forgetting the streams without a reader keeps the others in order, and
closing a symbol forgets all of its streams. Other symbols are left alone by each of them.

## Main statements

* `ScriptedFeed.lookup_assocSet`, `ScriptedFeed.lookup_filter_ne`.
* `ScriptedFeed.subscribe_of_pos`, `ScriptedFeed.subscribe_eq_stream`, with `held_subscribe`
  and `count_subscribe`.
* `ScriptedFeed.held_prune`, `ScriptedFeed.held_close`.
* `List.length_eq_countP_of_mem_iff` : counting places by a list of their positions.
-/

namespace RobotTrading

namespace ScriptedFeed

/-! ### Association lists -/

section Assoc

variable {β : Type} (xs : List (Symbol × β)) (s t : Symbol) (b : β)

/-- The lookup of a list with a first entry, as a test on its key. -/
theorem lookup_cons_eq_ite (k : Symbol) (v : β) :
    ((k, v) :: xs).lookup t = if t = k then some v else xs.lookup t := by
  by_cases h : t = k
  · subst h
    simp
  · simp [List.lookup_cons, beq_false_of_ne h, h]

theorem lookup_eq_none_of_any (h : xs.any (·.1 = s) = false) : xs.lookup s = none := by
  induction xs with
  | nil => rfl
  | cons e xs ih =>
    simp only [List.any_cons, Bool.or_eq_false_iff, decide_eq_false_iff_not] at h
    rw [lookup_cons_eq_ite, if_neg (Ne.symm h.1)]
    exact ih h.2

/-- Replacing the value of a key in place. -/
theorem lookup_map_replace :
    (xs.map fun e => if e.1 = s then (s, b) else e).lookup t =
      if t = s ∧ xs.any (·.1 = s) then some b else xs.lookup t := by
  induction xs with
  | nil => simp
  | cons e xs ih =>
    obtain ⟨k, v⟩ := e
    by_cases hk : k = s
    · subst hk
      by_cases ht : t = k <;> simp [lookup_cons_eq_ite, ht, ih]
    · have hany : ((k, v) :: xs).any (·.1 = s) = xs.any (·.1 = s) := by simp [hk]
      rw [hany, List.map_cons, if_neg hk, lookup_cons_eq_ite, lookup_cons_eq_ite, ih]
      by_cases ht : t = k
      · subst ht
        simp [hk]
      · simp [ht]

/-- Adding a key that is absent, at the end. -/
theorem lookup_append_absent (h : xs.any (·.1 = s) = false) :
    (xs ++ [(s, b)]).lookup t = if t = s then some b else xs.lookup t := by
  induction xs with
  | nil => simp [lookup_cons_eq_ite]
  | cons e xs ih =>
    obtain ⟨k, v⟩ := e
    simp only [List.any_cons, Bool.or_eq_false_iff, decide_eq_false_iff_not] at h
    rw [List.cons_append, lookup_cons_eq_ite, lookup_cons_eq_ite, ih h.2]
    by_cases ht : t = k
    · subst ht
      simp [h.1]
    · simp [ht]

/-- Setting a key is seen at that key only. -/
@[simp] theorem lookup_assocSet :
    (assocSet xs s b).lookup t = if t = s then some b else xs.lookup t := by
  unfold assocSet
  split
  · rename_i hany
    rw [lookup_map_replace]
    simp [hany]
  · rename_i hany
    exact lookup_append_absent xs s t b (Bool.eq_false_iff.2 hany)

/-- Forgetting a key is seen at that key only. -/
@[simp] theorem lookup_filter_ne : (xs.filter (·.1 != s)).lookup t =
    if t = s then none else xs.lookup t := by
  induction xs with
  | nil => simp
  | cons e xs ih =>
    obtain ⟨k, v⟩ := e
    by_cases hk : k = s
    · -- the entry is forgotten
      subst hk
      rw [List.filter_cons_of_neg (by simp), ih, lookup_cons_eq_ite]
      by_cases ht : t = k <;> simp [ht]
    · rw [List.filter_cons_of_pos (by simpa using hk), lookup_cons_eq_ite, lookup_cons_eq_ite, ih]
      by_cases ht : t = k
      · subst ht
        simp [hk]
      · simp [ht]

end Assoc

/-! ### Subscribing -/

variable (f : ScriptedFeed) (s t : Symbol)

/-- An armed failure is taken first. -/
theorem subscribe_of_pos (h : 0 < f.failSubscribes) :
    f.subscribe s = ({ f with failSubscribes := f.failSubscribes - 1 }, .failed) := by
  simp [subscribe, h]

/-- With no failure armed and a capacity a queue can have, the next stream is opened. -/
theorem subscribe_eq_stream (h0 : f.failSubscribes = 0) (hcap : f.capacity ≤ Queue.slotLimit) :
    f.subscribe s =
      ({ f with
          streams := f.streams.push (Queue.new f.capacity)
          senders := assocSet f.senders s (f.held s ++ [f.streams.size])
          opened := assocSet f.opened s (f.count s + 1) }, .stream f.streams.size) := by
  simp [subscribe, h0, Queue.refusal?, Nat.not_lt.2 hcap]

theorem held_subscribe (h0 : f.failSubscribes = 0) (hcap : f.capacity ≤ Queue.slotLimit) :
    (f.subscribe s).1.held t = if t = s then f.held s ++ [f.streams.size] else f.held t := by
  rw [subscribe_eq_stream f s h0 hcap]
  by_cases ht : t = s <;> simp [held, ht]

theorem count_subscribe (h0 : f.failSubscribes = 0) (hcap : f.capacity ≤ Queue.slotLimit) :
    (f.subscribe s).1.count t = if t = s then f.count s + 1 else f.count t := by
  rw [subscribe_eq_stream f s h0 hcap]
  by_cases ht : t = s <;> simp [count, ht]

/-! ### Forgetting and closing -/

/-- Forgetting streams changes the senders only. -/
theorem prune_fst : (f.prune s).1 = { f with senders := (f.prune s).1.senders } := by
  unfold prune
  split_ifs <;> rfl

/-- Forgetting keeps, for the symbol, its streams with a reader, in order. -/
theorem held_prune :
    (f.prune s).1.held t = if t = s then (f.held s).filter f.isOpen else f.held t := by
  unfold prune
  split_ifs with hany ht ht
  · simp [held, ht]
  · simp [held, ht]
  · -- the feed never held a stream for the symbol
    subst ht
    simp [held, lookup_eq_none_of_any _ _ (Bool.eq_false_iff.2 hany)]
  · rfl

/-- After closing, the feed holds no stream of the symbol. -/
theorem held_close (streams : Array (Queue FeedItem)) :
    ({ f with senders := f.senders.filter (·.1 != s), streams := streams } : ScriptedFeed).held t =
      if t = s then [] else f.held t := by
  by_cases ht : t = s <;> simp [held, ht]

end ScriptedFeed

end RobotTrading

namespace List

/-- The places of a list with one more item at its end. -/
theorem getElem?_append_singleton {α : Type} (l : List α) (a : α) (i : Nat) :
    (l ++ [a])[i]? = if i = l.length then some a else l[i]? := by
  rcases Nat.lt_trichotomy i l.length with hi | rfl | hi
  · rw [List.getElem?_append_left hi, if_neg (Nat.ne_of_lt hi)]
  · simp
  · rw [if_neg (Nat.ne_of_gt hi), List.getElem?_eq_none (by simp; omega),
      List.getElem?_eq_none (by omega)]

/-- The places where `p` holds, listed once each by position, are as many as `l.countP p`. -/
theorem length_eq_countP_of_mem_iff {α : Type} {p : α → Bool} (l : List α) :
    ∀ {L : List Nat}, L.Nodup → (∀ i, i ∈ L ↔ ∃ a, l[i]? = some a ∧ p a = true) →
      L.length = l.countP p := by
  intro L hL hmem
  -- `L` lists the same places as the positions of `l` where `p` holds, in order
  have hP : (((List.finRange l.length).filter fun i : Fin l.length => p l[i.val]).map
      Fin.val).Nodup :=
    ((List.nodup_finRange l.length).filter _).map Fin.val_injective
  have hperm : L.Perm (((List.finRange l.length).filter fun i : Fin l.length => p l[i.val]).map
      Fin.val) := by
    refine (List.perm_ext_iff_of_nodup hL hP).2 fun i => ?_
    rw [hmem]
    constructor
    · rintro ⟨a, ha, hpa⟩
      obtain ⟨hi, rfl⟩ := List.getElem?_eq_some_iff.1 ha
      exact List.mem_map.2 ⟨⟨i, hi⟩, List.mem_filter.2 ⟨List.mem_finRange _, hpa⟩, rfl⟩
    · intro h
      obtain ⟨j, hj, rfl⟩ := List.mem_map.1 h
      exact ⟨l[j.val], List.getElem?_eq_getElem j.isLt, (List.mem_filter.1 hj).2⟩
  have hcount := congrArg (List.countP p) (@List.ofFn_getElem _ l)
  rw [hperm.length_eq]
  simpa only [List.length_map, ← List.countP_eq_length_filter, List.ofFn_eq_map, List.countP_map,
    Function.comp_def] using hcount

end List
