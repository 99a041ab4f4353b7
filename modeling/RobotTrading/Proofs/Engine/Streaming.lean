import RobotTrading.Proofs.Engine.Streams

/-!
# A worker and its readers

One worker, as its tasks see it: what each task is to it (its control loop, at
which phase, or one of its price readers), whether each ended or was aborted,
the stream each reader holds, its streaming flag, its current reader, its
clients, and which streams are open (`WorkerView`).

`Streamed` is what holds of every worker along every run. A reader that has
not ended is the worker's current reader, so at most one runs. A worker that
does not count as streaming has no reader running; one that counts as streaming
has a reader running, or has not opened its first, or had a reader come down:
aborted, or ended without clearing the flag. Before its first run a worker has
no reader; without resubscription it never has more than one. Once it clears
its clients no reader of it runs unless aborted, once it has ended it has no
client, and an ended reader has let its stream go.

Each change a worker's tasks make is stated here on the view and shown to keep
`Streamed`; the next module reads these changes off the steps of the tasks.

## Main definitions

* `Role`, `WorkerView`, `StreamView.of` : one worker's view.
* `WorkerView.CameDown` : a reader came down before its end.
* `Streamed` : the invariant.

## Main statements

* `Streamed.frame` : a change outside the worker keeps it.
* `Streamed.moveReader`, `Streamed.endReader`, `Streamed.abortReader`, `Streamed.moveControl`,
  `Streamed.startReader`, `Streamed.setClients`, `Streamed.endControl`, `Streamed.spawn` : each
  change a worker's tasks make keeps it.
-/

namespace RobotTrading

/-- What a task is to one worker. -/
inductive Role where
  /-- None of its tasks. -/
  | other
  /-- Its control loop, at phase `p`. -/
  | control (p : WorkerPhase) (ended aborted : Bool)
  /-- One of its price readers. -/
  | reader (ended aborted : Bool)

/-- One worker as its tasks see it. -/
@[ext] structure WorkerView where
  /-- What each task is to the worker. -/
  role : TaskId → Role
  /-- The stream each reader of the worker holds. -/
  holds : TaskId → Option Nat
  /-- The worker exists. -/
  present : Bool
  /-- Its streaming flag. -/
  streaming : Bool
  /-- Its current reader. -/
  reader : Option TaskId
  /-- Its control task. -/
  task : TaskId
  /-- Its clients. -/
  clients : List Client
  /-- The streams that still have their reader. -/
  isOpen : Nat → Bool
  /-- The number of streams ever opened. -/
  streamCount : Nat
  /-- Dead streams are reopened on the next robot list. -/
  resubscribe : Bool

namespace StreamView

variable (v : StreamView)

/-- What a task's view makes it to worker `wid`. -/
def roleOf (wid : Nat) : Option (Job × Bool × Bool) → Role
  | some (.worker w p, d, a) => if w = wid then .control p d a else .other
  | some (.reader w _ _, d, a) => if w = wid then .reader d a else .other
  | _ => .other

/-- The stream a task's view holds as a reader of worker `wid`. -/
def holdsOf (wid : Nat) : Option (Job × Bool × Bool) → Option Nat
  | some (.reader w _ ph, _, _) => if w = wid then ph.stream? else none
  | _ => none

/-- Worker `wid` as its tasks see it. -/
def of (wid : Nat) : WorkerView :=
  let k : WorkerStreams := (v.workers wid).getD ⟨false, none, [], 0⟩
  ⟨fun x => roleOf wid (v.tasks x), fun x => holdsOf wid (v.tasks x), (v.workers wid).isSome,
    k.streaming, k.reader, k.task, k.clients, v.isOpen, v.streamCount, v.resubscribe⟩

end StreamView

namespace WorkerView

variable (u : WorkerView)

/-- Task `x` now has role `r` and holds stream `s`. -/
@[simps] def setTask (x : TaskId) (r : Role) (s : Option Nat) : WorkerView :=
  { u with role := Function.update u.role x r, holds := Function.update u.holds x s }

/-- A reader of the worker came down before its end: it was aborted, or it ended while the
    worker still counts as streaming on it. -/
def CameDown : Prop :=
  (∃ x d, u.role x = .reader d true) ∨
    (u.streaming = true ∧ ∃ x a, u.reader = some x ∧ u.role x = .reader true a)

/-- Every stream is as it was, and one more is opened. -/
@[simps] def openStream : WorkerView :=
  { u with isOpen := Function.update u.isOpen u.streamCount true, streamCount := u.streamCount + 1 }

/-- Stream `i` lost its reader. -/
@[simps] def closeStream (i : Nat) : WorkerView := { u with isOpen := Function.update u.isOpen i false }

/-- The worker is made with control task `t` and clients `cs`, counting as streaming. -/
@[simps] def make (t : TaskId) (cs : List Client) : WorkerView :=
  { u with present := true, streaming := true, reader := none, task := t, clients := cs }

variable {u} {x y : TaskId} {r r' : Role} {s : Option Nat}

/-- A task's role after a change: the new one for the changed task, the old one for the rest. -/
theorem role_setTask_eq (hy : (u.setTask x r s).role y = r') :
    (y = x ∧ r = r') ∨ (y ≠ x ∧ u.role y = r') := by
  by_cases hyx : y = x
  · subst hyx
    exact .inl ⟨rfl, by simpa using hy⟩
  · exact .inr ⟨hyx, by simpa [hyx] using hy⟩

/-- The stream a task holds after a change. -/
theorem holds_setTask_eq {i : Nat} (hy : (u.setTask x r s).holds y = some i) :
    (y = x ∧ s = some i) ∨ (y ≠ x ∧ u.holds y = some i) := by
  by_cases hyx : y = x
  · subst hyx
    exact .inl ⟨rfl, by simpa using hy⟩
  · exact .inr ⟨hyx, by simpa [hyx] using hy⟩

/-- A reader that came down stays so while the flag and the current reader stay, and each
    reader stays one, never coming back from its end or from an abort. -/
theorem CameDown.of_readers {u' : WorkerView} (h : u.CameDown) (hs : u'.streaming = u.streaming)
    (hd : u'.reader = u.reader) (hr : ∀ y d a, u.role y = .reader d a →
      ∃ d' a', u'.role y = .reader d' a' ∧ (d = true → d' = true) ∧ (a = true → a' = true)) :
    u'.CameDown := by
  rcases h with ⟨y, d, hy⟩ | ⟨hst, y, a, hy, hyr⟩
  · obtain ⟨d', a', hy', -, ha⟩ := hr y d true hy
    exact .inl ⟨y, d', (ha rfl) ▸ hy'⟩
  · obtain ⟨d', a', hy', hd', -⟩ := hr y true a hyr
    exact .inr ⟨hs ▸ hst, y, a', hd ▸ hy, (hd' rfl) ▸ hy'⟩

end WorkerView

/-- `u'` is `u` changed outside the worker: its tasks, its record and its resubscription are as
    they were; streams may have lost their reader, and new ones been opened. -/
structure WorkerView.Outside (u u' : WorkerView) : Prop where
  role : u'.role = u.role
  holds : u'.holds = u.holds
  present : u'.present = u.present
  streaming : u'.streaming = u.streaming
  reader : u'.reader = u.reader
  task : u'.task = u.task
  clients : u'.clients = u.clients
  resubscribe : u'.resubscribe = u.resubscribe
  isOpen : ∀ i < u.streamCount, u.isOpen i = false → u'.isOpen i = false
  streamCount : u.streamCount ≤ u'.streamCount

namespace WorkerView.Outside

variable {u u' u'' : WorkerView}

@[refl] theorem refl (u : WorkerView) : u.Outside u :=
  ⟨rfl, rfl, rfl, rfl, rfl, rfl, rfl, rfl, fun _ _ h => h, le_rfl⟩

theorem trans (h : u.Outside u') (h' : u'.Outside u'') : u.Outside u'' where
  role := h'.role.trans h.role
  holds := h'.holds.trans h.holds
  present := h'.present.trans h.present
  streaming := h'.streaming.trans h.streaming
  reader := h'.reader.trans h.reader
  task := h'.task.trans h.task
  clients := h'.clients.trans h.clients
  resubscribe := h'.resubscribe.trans h.resubscribe
  isOpen i hi ho := h'.isOpen i (lt_of_lt_of_le hi h.streamCount) (h.isOpen i hi ho)
  streamCount := h.streamCount.trans h'.streamCount

theorem openStream (u : WorkerView) : u.Outside u.openStream :=
  ⟨rfl, rfl, rfl, rfl, rfl, rfl, rfl, rfl,
    fun i hi ho => by simp [Nat.ne_of_lt hi, ho], Nat.le_succ _⟩

theorem closeStream (u : WorkerView) (i : Nat) : u.Outside (u.closeStream i) :=
  ⟨rfl, rfl, rfl, rfl, rfl, rfl, rfl, rfl,
    fun j _ hj => by by_cases hji : j = i <;> simp [hji, hj], le_rfl⟩

end WorkerView.Outside

/-- How a worker's tasks stand with its record. -/
structure Attached (u : WorkerView) : Prop where
  /-- A worker that does not exist has no task. -/
  absent : u.present = false → ∀ x, u.role x = .other
  /-- A reader that has not ended is the current reader. -/
  current : ∀ x a, u.role x = .reader false a → u.reader = some x
  /-- The current reader is a reader of the worker. -/
  pointer : ∀ x, u.reader = some x → ∃ d a, u.role x = .reader d a
  /-- While it does not count as streaming, no reader runs. -/
  flagOff : u.streaming = false → ∀ x a, u.role x ≠ .reader false a
  /-- While it counts as streaming, a reader runs, or it has not opened its first, or a reader
      came down. -/
  flagOn : u.present = true → u.streaming = true →
    (∃ x a, u.role x = .reader false a) ∨ u.role u.task = .control .start false false ∨ u.CameDown
  /-- It has its control task, which is never aborted. -/
  control : u.present = true → ∃ p d, u.role u.task = .control p d false
  /-- The control task is the only task running its loop. -/
  controlOf : ∀ x p d a, u.role x = .control p d a → x = u.task
  /-- Before its first run it counts as streaming and has no reader. -/
  starting : ∀ d, u.role u.task = .control .start d false →
    d = false ∧ u.streaming = true ∧ u.reader = none ∧ ∀ x d' a, u.role x ≠ .reader d' a
  /-- Without resubscription it opens one reader at most. -/
  single : u.resubscribe = false → ∀ x y d d' a a', u.role x = .reader d a →
    u.role y = .reader d' a' → x = y
  /-- Once it clears its clients, or has ended, a reader still running was aborted. -/
  aborted : ∀ p d, u.role u.task = .control p d false → (p = .clearing ∨ d = true) →
    ∀ x, u.role x ≠ .reader false false
  /-- Once ended it has no client. -/
  cleared : ∀ p, u.role u.task = .control p true false → u.clients = []

/-- How a worker stands with its readers and their streams, along every run. -/
structure Streamed (u : WorkerView) : Prop extends Attached u where
  /-- A reader holds a stream the feed made. -/
  owned : ∀ x i, u.holds x = some i → (∃ d a, u.role x = .reader d a) ∧ i < u.streamCount
  /-- An ended reader has let its stream go. -/
  closed : ∀ x a i, u.role x = .reader true a → u.holds x = some i → u.isOpen i = false

namespace Attached

variable {u u' : WorkerView}

/-- Only the tasks and the record of the worker matter. -/
theorem congr (h : Attached u) (hr : u'.role = u.role) (hp : u'.present = u.present)
    (hs : u'.streaming = u.streaming) (hd : u'.reader = u.reader) (ht : u'.task = u.task)
    (hc : u'.clients = u.clients) (hre : u'.resubscribe = u.resubscribe) : Attached u' := by
  obtain ⟨role, holds, present, streaming, reader, task, clients, isOpen, count, resub⟩ := u
  obtain ⟨role', holds', present', streaming', reader', task', clients', isOpen', count', resub'⟩ := u'
  simp only at hr hp hs hd ht hc hre
  subst hr hp hs hd ht hc hre
  obtain ⟨h₁, h₂, h₃, h₄, h₅, h₆, h₇, h₈, h₉, h₁₀, h₁₁⟩ := h
  exact ⟨h₁, h₂, h₃, h₄, h₅, h₆, h₇, h₈, h₉, h₁₀, h₁₁⟩

/-- A reader that has not ended is the current reader. -/
theorem eq_of_current (h : Attached u) {x y : TaskId} {a : Bool} (hx : u.role x = .reader false a)
    (hy : u.reader = some y) : x = y :=
  Option.some_injective _ ((h.current x a hx).symm.trans hy)

/-- A reader that has not ended is the only one running. -/
theorem live_unique (h : Attached u) {x y : TaskId} {a b : Bool} (hx : u.role x = .reader false a)
    (hy : u.role y = .reader false b) : x = y :=
  h.eq_of_current hx (h.current y b hy)

/-- A worker with a reader has left its start. -/
theorem not_starting (h : Attached u) {x : TaskId} {d a : Bool} (hx : u.role x = .reader d a)
    (e : Bool) : u.role u.task ≠ .control .start e false := fun hs =>
  (h.starting e hs).2.2.2 x d a hx

/-- A worker with a task exists. -/
theorem present_of_reader (h : Attached u) {x : TaskId} {d a : Bool} (hx : u.role x = .reader d a) :
    u.present = true := by
  cases hp : u.present
  · rw [h.absent hp x] at hx; cases hx
  · rfl

/-- A worker with a control task exists. -/
theorem present_of_control (h : Attached u) {p : WorkerPhase} {d a : Bool}
    (hx : u.role u.task = .control p d a) : u.present = true := by
  cases hp : u.present
  · rw [h.absent hp] at hx
    cases hx
  · rfl

/-- The control task is none of the readers. -/
theorem task_ne (h : Attached u) {x : TaskId} {d a : Bool} (hx : u.role x = .reader d a) :
    x ≠ u.task := by
  rintro rfl
  obtain ⟨p, e, hp⟩ := h.control (h.present_of_reader hx)
  rw [hx] at hp
  cases hp

end Attached

namespace Streamed

variable {u u' : WorkerView}

/-- **A change outside the worker** keeps it. -/
theorem frame (h : Streamed u) (ho : u.Outside u') : Streamed u' where
  toAttached := h.toAttached.congr ho.role ho.present ho.streaming ho.reader ho.task ho.clients
    ho.resubscribe
  owned x i hx := by
    rw [ho.holds] at hx
    rw [ho.role]
    exact ⟨(h.owned x i hx).1, lt_of_lt_of_le (h.owned x i hx).2 ho.streamCount⟩
  closed x a i hx hi := by
    rw [ho.role] at hx
    rw [ho.holds] at hi
    exact ho.isOpen i (h.owned x i hi).2 (h.closed x a i hx hi)

/-- The feed opens a stream. -/
theorem openStream (h : Streamed u) : Streamed u.openStream :=
  h.frame (.openStream u)

/-- A stream loses its reader. -/
theorem closeStream (h : Streamed u) (i : Nat) : Streamed (u.closeStream i) :=
  h.frame (.closeStream u i)

/-- **A reader moves on**: to another phase, to its end, or aborted. A reader never comes back
    from its end or from an abort; the stream it holds was made by the feed, and once it has
    ended the stream has lost its reader. -/
theorem setReader (h : Streamed u) {x : TaskId} {d a : Bool} (hx : u.role x = .reader d a)
    (d' a' : Bool) (s : Option Nat) (hd : d' = false → d = false) (ha : a = true → a' = true)
    (hs : ∀ i, s = some i → i < u.streamCount)
    (hc : d' = true → ∀ i, s = some i → u.isOpen i = false) :
    Streamed (u.setTask x (.reader d' a') s) := by
  have hxt : u.task ≠ x := (h.task_ne hx).symm
  -- the readers of the worker are the readers it had
  have hread : ∀ y e b, (u.setTask x (.reader d' a') s).role y = .reader e b →
      ∃ e b, u.role y = .reader e b := by
    intro y e b hy
    obtain ⟨rfl, -⟩ | ⟨-, hy⟩ := WorkerView.role_setTask_eq hy
    exacts [⟨d, a, hx⟩, ⟨e, b, hy⟩]
  have hkeep : ∀ y e b, u.role y = .reader e b → y ≠ x →
      (u.setTask x (.reader d' a') s).role y = .reader e b := fun y e b hy hyx => by simp [hyx, hy]
  exact {
    absent := fun hp => by simp [h.present_of_reader hx] at hp
    current := fun y b hy => by
      obtain ⟨rfl, hb⟩ | ⟨-, hy⟩ := WorkerView.role_setTask_eq hy
      · cases hb
        cases hd rfl
        exact h.current y a hx
      · exact h.current y b hy
    pointer := fun y hy => by
      by_cases hyx : y = x
      · exact ⟨d', a', by simp [hyx]⟩
      · obtain ⟨e, b, hy⟩ := h.pointer y hy
        exact ⟨e, b, hkeep y e b hy hyx⟩
    flagOff := fun hst y b hy => by
      obtain ⟨rfl, hb⟩ | ⟨-, hy⟩ := WorkerView.role_setTask_eq hy
      · cases hb
        cases hd rfl
        exact h.flagOff hst y a hx
      · exact h.flagOff hst y b hy
    flagOn := fun hp hst => by
      -- the reader that ran, if it is `x`, has ended or been aborted
      have hcame : u.CameDown → (u.setTask x (.reader d' a') s).CameDown := fun hcd =>
        hcd.of_readers rfl rfl fun y e b hy => by
          by_cases hyx : y = x
          · subst hyx
            rw [hx] at hy
            cases hy
            refine ⟨d', a', by simp, fun he => ?_, ha⟩
            cases d'
            · simp [hd rfl] at he
            · rfl
          · exact ⟨e, b, hkeep y e b hy hyx, id, id⟩
      rcases h.flagOn hp hst with ⟨y, b, hy⟩ | hstart | hcd
      · by_cases hyx : y = x
        · subst hyx
          rw [hx] at hy
          cases hy
          cases d' <;> cases a'
          · exact .inl ⟨y, false, by simp⟩
          · exact .inl ⟨y, true, by simp⟩
          · exact .inr (.inr (.inr ⟨hst, y, false, h.current y _ hx, by simp⟩))
          · exact .inr (.inr (.inl ⟨y, true, by simp⟩))
        · exact .inl ⟨y, b, hkeep y false b hy hyx⟩
      · exact absurd hstart (h.not_starting hx false)
      · exact .inr (.inr (hcame hcd))
    control := fun hp => by
      obtain ⟨p, e, hc⟩ := h.control hp
      exact ⟨p, e, by simp [hxt, hc]⟩
    controlOf := fun y p e b hy => by
      obtain ⟨rfl, ⟨⟩⟩ | ⟨-, hy⟩ := WorkerView.role_setTask_eq hy
      exact h.controlOf y p e b hy
    starting := fun e hst => absurd (by simpa [hxt] using hst) (h.not_starting hx e)
    single := fun hre y z e e' b b' hy hz => by
      obtain ⟨e₁, b₁, hy⟩ := hread y e b hy
      obtain ⟨e₂, b₂, hz⟩ := hread z e' b' hz
      exact h.single hre y z e₁ e₂ b₁ b₂ hy hz
    aborted := fun p e hst hpe y hy => by
      obtain ⟨rfl, hb⟩ | ⟨-, hy⟩ := WorkerView.role_setTask_eq hy
      · cases hb
        cases hd rfl
        cases a
        · exact h.aborted p e (by simpa [hxt] using hst) hpe y hx
        · simp at ha
      · exact h.aborted p e (by simpa [hxt] using hst) hpe y hy
    cleared := fun p hst => h.cleared p (by simpa [hxt] using hst)
    owned := fun y i hy => by
      obtain ⟨rfl, hi⟩ | ⟨hyx, hy⟩ := WorkerView.holds_setTask_eq hy
      · exact ⟨⟨d', a', by simp⟩, hs i hi⟩
      · obtain ⟨⟨e, b, hr⟩, hi⟩ := h.owned y i hy
        exact ⟨⟨e, b, hkeep y e b hr hyx⟩, hi⟩
    closed := fun y b i hy hi => by
      obtain ⟨rfl, hb⟩ | ⟨hyx, hy⟩ := WorkerView.role_setTask_eq hy
      · cases hb
        obtain ⟨-, hi⟩ | ⟨hne, -⟩ := WorkerView.holds_setTask_eq hi
        · exact hc rfl i hi
        · exact absurd rfl hne
      · obtain ⟨hyx', -⟩ | ⟨-, hi⟩ := WorkerView.holds_setTask_eq hi
        · exact absurd hyx' hyx
        · exact h.closed y b i hy hi }


/-- **The flag is cleared** once no reader runs and the worker has left its start. -/
theorem clearFlag (h : Streamed u) (hno : ∀ y a, u.role y ≠ .reader false a)
    (hns : ∀ d, u.role u.task ≠ .control .start d false) : Streamed { u with streaming := false } :=
  { h with
    flagOff := fun _ => hno
    flagOn := fun _ hst => absurd hst Bool.false_ne_true
    starting := fun d hst => absurd hst (hns d) }

/-- **A reader ends** after letting its stream go, and the worker stops counting as
    streaming. -/
theorem endReader (h : Streamed u) {x : TaskId} {a : Bool} (hx : u.role x = .reader false a)
    (hc : ∀ i, u.holds x = some i → u.isOpen i = false) :
    Streamed { u.setTask x (.reader true a) (u.holds x) with streaming := false } := by
  refine (h.setReader hx true a (u.holds x) (fun h => absurd h (by simp)) id
    (fun i hi => (h.owned x i hi).2) (fun _ => hc)).clearFlag (fun y b hy => ?_) (fun d hst => ?_)
  -- `x` was the only reader running, and a worker with a reader has left its start
  · obtain ⟨rfl, ⟨⟩⟩ | ⟨hyx, hy⟩ := WorkerView.role_setTask_eq hy
    exact hyx (h.live_unique hy hx)
  · exact h.not_starting hx d (by simpa [(h.task_ne hx).symm] using hst)

/-- **The control task moves on**, to a phase other than its start, or to its end. Once it clears
    its clients or ends, no reader runs unaborted; once it ends, it has no client. -/
theorem setControl (h : Streamed u) {p : WorkerPhase} (hx : u.role u.task = .control p false false)
    (hp : p ≠ .start) (p' : WorkerPhase) (d' : Bool) (hp' : p' ≠ .start)
    (hab : p' = .clearing ∨ d' = true → ∀ y, u.role y ≠ .reader false false)
    (hcl : d' = true → u.clients = []) :
    Streamed (u.setTask u.task (.control p' d' false) none) := by
  have hpres := h.present_of_control hx
  -- the readers keep their roles
  have hkeep : ∀ y e b, u.role y = .reader e b →
      (u.setTask u.task (.control p' d' false) none).role y = .reader e b :=
    fun y e b hy => by simp [h.task_ne hy, hy]
  have hread : ∀ y e b, (u.setTask u.task (.control p' d' false) none).role y = .reader e b →
      u.role y = .reader e b := by
    intro y e b hy
    obtain ⟨-, ⟨⟩⟩ | ⟨-, hy⟩ := WorkerView.role_setTask_eq hy
    exact hy
  exact {
    absent := fun hpr => by simp [hpres] at hpr
    current := fun y b hy => h.current y b (hread y false b hy)
    pointer := fun y hy => by
      obtain ⟨e, b, hy⟩ := h.pointer y hy
      exact ⟨e, b, hkeep y e b hy⟩
    flagOff := fun hst y b hy => h.flagOff hst y b (hread y false b hy)
    flagOn := fun _ hst => by
      rcases h.flagOn hpres hst with ⟨y, b, hy⟩ | hstart | hcd
      · exact .inl ⟨y, b, hkeep y false b hy⟩
      · rw [hx] at hstart
        cases hstart
        exact absurd rfl hp
      · exact .inr (.inr (hcd.of_readers rfl rfl fun y e b hy => ⟨e, b, hkeep y e b hy, id, id⟩))
    control := fun _ => ⟨p', d', by simp⟩
    controlOf := fun y q e b hy => by
      obtain ⟨rfl, -⟩ | ⟨-, hy⟩ := WorkerView.role_setTask_eq hy
      · rfl
      · exact h.controlOf y q e b hy
    starting := fun e hst => by
      simp only [WorkerView.setTask_role, WorkerView.setTask_task, Function.update_self,
        Role.control.injEq] at hst
      exact absurd hst.1 hp'
    single := fun hre y z e e' b b' hy hz =>
      h.single hre y z e e' b b' (hread y e b hy) (hread z e' b' hz)
    aborted := fun q e hst hqe y hy => by
      simp only [WorkerView.setTask_role, WorkerView.setTask_task, Function.update_self,
        Role.control.injEq, and_true] at hst
      obtain ⟨rfl, rfl⟩ := hst
      exact hab hqe y (hread y false false hy)
    cleared := fun q hst => by
      simp only [WorkerView.setTask_role, WorkerView.setTask_task, Function.update_self,
        Role.control.injEq, and_true] at hst
      exact hcl hst.2
    owned := fun y i hy => by
      obtain ⟨-, ⟨⟩⟩ | ⟨-, hy⟩ := WorkerView.holds_setTask_eq hy
      obtain ⟨⟨e, b, hr⟩, hi⟩ := h.owned y i hy
      exact ⟨⟨e, b, hkeep y e b hr⟩, hi⟩
    closed := fun y b i hy hi => by
      obtain ⟨-, ⟨⟩⟩ | ⟨-, hi⟩ := WorkerView.holds_setTask_eq hi
      exact h.closed y b i (hread y true b hy) hi }

/-- **The clients change** while the control task has not ended. -/
theorem setClients (h : Streamed u) (cs : List Client)
    (hne : ∀ p, u.role u.task ≠ .control p true false) : Streamed { u with clients := cs } :=
  { h with cleared := fun p hp => absurd hp (hne p) }


/-- **A reader is opened** by the control task, on its first run or after a command when no
    reader runs, and the control task goes idle. Without resubscription the worker has had no
    reader before. -/
theorem startReader (h : Streamed u) {p : WorkerPhase} (hx : u.role u.task = .control p false false)
    {r : TaskId} (hr : u.role r = .other) (hno : ∀ y a, u.role y ≠ .reader false a)
    (hre : u.resubscribe = false → ∀ y d a, u.role y ≠ .reader d a) :
    Streamed (({ u with streaming := true, reader := some r }.setTask r (.reader false false)
      none).setTask u.task (.control .idle false false) none) := by
  have hpres := h.present_of_control hx
  have hrt : u.task ≠ r := fun he => by rw [he, hr] at hx; cases hx
  -- a task is the control task, the new reader, or keeps its role
  have hcase : ∀ y q, (({ u with streaming := true, reader := some r }.setTask r (.reader false false)
      none).setTask u.task (.control .idle false false) none).role y = q →
      (y = u.task ∧ q = .control .idle false false) ∨ (y = r ∧ q = .reader false false) ∨
        (y ≠ u.task ∧ y ≠ r ∧ u.role y = q) := by
    intro y q hy
    obtain ⟨rfl, rfl⟩ | ⟨hyt, hy⟩ := WorkerView.role_setTask_eq hy
    · exact .inl ⟨rfl, rfl⟩
    obtain ⟨rfl, rfl⟩ | ⟨hyr, hy⟩ := WorkerView.role_setTask_eq hy
    exacts [.inr (.inl ⟨rfl, rfl⟩), .inr (.inr ⟨hyt, hyr, hy⟩)]
  have hidle : ∀ q e, (({ u with streaming := true, reader := some r }.setTask r
      (.reader false false) none).setTask u.task (.control .idle false false) none).role u.task =
        .control q e false → q = .idle ∧ e = false := by
    intro q e hq
    simpa using hq.symm
  exact {
    absent := fun hpr => by simp [hpres] at hpr
    current := fun y b hy => by
      rcases hcase y _ hy with ⟨-, ⟨⟩⟩ | ⟨rfl, -⟩ | ⟨-, -, hy⟩
      · rfl
      · exact absurd hy (hno y b)
    pointer := fun y hy => by
      cases hy
      exact ⟨false, false, by simp [hrt.symm]⟩
    flagOff := fun hst => absurd hst (by simp)
    flagOn := fun _ _ => .inl ⟨r, false, by simp [hrt.symm]⟩
    control := fun _ => ⟨.idle, false, by simp⟩
    controlOf := fun y q e b hy => by
      rcases hcase y _ hy with ⟨rfl, -⟩ | ⟨-, ⟨⟩⟩ | ⟨-, -, hy⟩
      · rfl
      · exact h.controlOf y q e b hy
    starting := fun e hst => absurd (hidle _ _ hst).1 (by simp)
    single := fun hre' y z e e' b b' hy hz => by
      rcases hcase y _ hy with ⟨-, ⟨⟩⟩ | ⟨rfl, -⟩ | ⟨-, -, hy⟩
      · rcases hcase z _ hz with ⟨-, ⟨⟩⟩ | ⟨rfl, -⟩ | ⟨-, -, hz⟩
        · rfl
        · exact absurd hz (hre hre' z e' b')
      · exact absurd hy (hre hre' y e b)
    aborted := fun q e hst hqe => by
      obtain ⟨rfl, rfl⟩ := hidle _ _ hst
      simp at hqe
    cleared := fun q hst => absurd (hidle _ _ hst).2 (by simp)
    owned := fun y i hy => by
      obtain ⟨-, ⟨⟩⟩ | ⟨hyt, hy⟩ := WorkerView.holds_setTask_eq hy
      obtain ⟨-, ⟨⟩⟩ | ⟨hyr, hy⟩ := WorkerView.holds_setTask_eq hy
      obtain ⟨⟨e, b, hrd⟩, hi⟩ := h.owned y i hy
      exact ⟨⟨e, b, by simp [hyt, hyr, hrd]⟩, hi⟩
    closed := fun y b i hy hi => by
      rcases hcase y _ hy with ⟨-, ⟨⟩⟩ | ⟨-, ⟨⟩⟩ | ⟨hyt, hyr, hy⟩
      exact h.closed y b i hy (by simpa [hyt, hyr] using hi) }

/-- **The worker is made**, with control task `t` at its start, its first clients, and counting
    as streaming. -/
theorem spawn (h : Streamed u) (hp : u.present = false) (t : TaskId) (cs : List Client) :
    Streamed ((u.make t cs).setTask t (.control .start false false) none) := by
  have hother : ∀ y, u.role y = .other := h.absent hp
  -- its only task is its control task
  have hcase : ∀ y q, ((u.make t cs).setTask t (.control .start false false) none).role y = q →
        (y = t ∧ q = .control .start false false) ∨ q = .other := by
    intro y q hy
    obtain ⟨rfl, rfl⟩ | ⟨-, hy⟩ := WorkerView.role_setTask_eq hy
    exacts [.inl ⟨rfl, rfl⟩, .inr (hy ▸ hother y)]
  have hno : ∀ y d a, ((u.make t cs).setTask t (.control .start false false) none).role y ≠
      .reader d a :=
    fun y d a hy => by rcases hcase y _ hy with ⟨-, hq⟩ | hq <;> cases hq
  exact {
    absent := fun hpr => absurd hpr (by simp)
    current := fun y b hy => absurd hy (hno y false b)
    pointer := fun y hy => by cases hy
    flagOff := fun hst => absurd hst (by simp)
    flagOn := fun _ _ => .inr (.inl (by simp))
    control := fun _ => ⟨.start, false, by simp⟩
    controlOf := fun y q e b hy => by
      rcases hcase y _ hy with ⟨rfl, -⟩ | hq
      · rfl
      · cases hq
    starting := fun e hst => ⟨by simpa using hst.symm, rfl, rfl, hno⟩
    single := fun _ y _ d _ a _ hy => absurd hy (hno y d a)
    aborted := fun q e hst hqe => by
      simp only [WorkerView.setTask_role, WorkerView.setTask_task, WorkerView.make_task,
        Function.update_self, Role.control.injEq, and_true] at hst
      obtain ⟨rfl, rfl⟩ := hst
      simp at hqe
    cleared := fun q hst => by simp at hst
    owned := fun y i hy => by
      obtain ⟨-, ⟨⟩⟩ | ⟨-, hy⟩ := WorkerView.holds_setTask_eq hy
      obtain ⟨⟨d, a, hrd⟩, -⟩ := h.owned y i hy
      rw [hother y] at hrd
      cases hrd
    closed := fun y b _ hy => absurd hy (hno y true b) }

end Streamed

/-! ### One worker's share of a change -/

namespace StreamView

variable (v : StreamView) (wid : Nat)

/-- A task that is none of the worker's holds none of its streams. -/
theorem holdsOf_of_roleOf {x : Option (Job × Bool × Bool)} (h : roleOf wid x = .other) :
    holdsOf wid x = none := by
  rcases x with _ | ⟨j, d, a⟩
  · rfl
  · cases j <;> simp_all [roleOf, holdsOf]

theorem of_setTask (t : TaskId) (x : Option (Job × Bool × Bool)) :
    (v.setTask t x).of wid = (v.of wid).setTask t (roleOf wid x) (holdsOf wid x) := by
  ext1
  · funext y
    by_cases hy : y = t <;> simp [of, hy]
  · funext y
    by_cases hy : y = t <;> simp [of, hy]
  all_goals rfl

/-- A change to a task that is none of the worker's, before or after, is none of its business. -/
theorem of_setTask_of_other {t : TaskId} {x : Option (Job × Bool × Bool)}
    (hold : roleOf wid (v.tasks t) = .other) (hnew : roleOf wid x = .other) :
    (v.setTask t x).of wid = v.of wid := by
  ext1
  · funext y
    by_cases hy : y = t <;> simp [of, hy, hold, hnew]
  · funext y
    by_cases hy : y = t
    · simp [of, hy, holdsOf_of_roleOf wid hold, holdsOf_of_roleOf wid hnew]
    · simp [of, hy]
  all_goals rfl

theorem of_setWorker_of_ne {wid' : Nat} (h : wid' ≠ wid) (k : Option WorkerStreams) :
    (v.setWorker wid' k).of wid = v.of wid := by
  simp only [of, setWorker_workers, Function.update_of_ne (Ne.symm h)]
  rfl

theorem of_closeStream (i : Nat) : (v.closeStream i).of wid = (v.of wid).closeStream i := rfl

theorem of_openStream : v.openStream.of wid = (v.of wid).openStream := rfl

end StreamView

end RobotTrading
